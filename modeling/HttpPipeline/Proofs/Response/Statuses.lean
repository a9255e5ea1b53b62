import HttpPipeline.Response.Tower
import HttpPipeline.Proofs.Response.Calls
import HttpPipeline.Proofs.Response.GzipLayer
import HttpPipeline.Proofs.Response.Polled

/-!
# The status that a client sees

Of the statuses that a handler gives or implies, two matter: the first at all and the first that
is final (`Statuses`). A channel sends the first final one and drops the interim ones before it.
A status layer and a compression layer remember the first one, whatever it is, and pass nothing
else on; a commit layer passes everything on.

So each kind of layer hears one account of the statuses and lets the sink below hear another
(`Sink.Hears`). Behind a layer that remembers, the account is that of the first status alone,
followed by writes and flushes: this is the relation `Statuses.Latched` between the account
above and the account below. It makes the first status count if it is final, and `200` if it is
not, whatever came afterwards.

`Tower.statuses_unwind` draws the conclusion for towers of any height. Without an interim
status at the start the client sees the same status behind every tower, and it is the status
that every status layer reports. With one, the layers report a status that no client ever sees,
and the client may not see the one that it would have seen without them
(`Tower.interim_hides_final`).
-/

namespace HttpPipeline

/-- **What is heard of the status**: the first one at all, and the first that is final. -/
@[ext]
structure Statuses where
  first : Option Status := none
  final : Option Status := none

namespace Statuses

/-- One more status. -/
def hear (k : Statuses) (code : Status) : Statuses where
  first := k.first.or (some code)
  final := k.final.or ((some code).filter Status.final)

/-- The status that a response has if only its first status counts. -/
def bound (k : Statuses) : Status := (k.first.filter Status.final).getD 200

/-- What some calls have to say of the status. -/
def ofCalls (calls : List Call) : Statuses where
  first := calls.findSome? Call.status?
  final := calls.findSome? fun call => call.status?.filter Status.final

/-- Statuses one after the other. -/
def append (k j : Statuses) : Statuses := ⟨k.first.or j.first, k.final.or j.final⟩

theorem hear_hear (k : Statuses) (code : Status) : (k.hear code).hear code = k.hear code := by
  simp only [hear, Option.or_assoc, Option.or_self]

theorem hear_first_isSome (k : Statuses) (code : Status) : (k.hear code).first.isSome := by
  simp [hear]

theorem hear_first_of_isSome {k : Statuses} (hk : k.first.isSome) (code : Status) :
    (k.hear code).first = k.first := by
  obtain ⟨first, hfirst⟩ := Option.isSome_iff_exists.mp hk
  rw [hear, hfirst, Option.some_or]

/-- What is implied at the end is what counts without a status. -/
theorem bound_hear (k : Statuses) : (k.hear 200).bound = k.bound := by
  unfold bound hear
  cases k.first <;> rfl

theorem bound_congr {j k : Statuses} (h : j.first = k.first) : j.bound = k.bound := by
  rw [bound, bound, h]

/-- If the first status is not an interim one, it is the first final one as well. -/
theorem final_ofCalls {calls : List Call}
    (h : ∀ code, (ofCalls calls).first = some code → Status.final code = true) :
    (ofCalls calls).final.getD 200 = (ofCalls calls).first.getD 200 := by
  induction calls with
  | nil => rfl
  | cons call calls ih =>
    unfold ofCalls at h ih ⊢
    simp only [List.findSome?_cons] at h ⊢
    cases hcall : call.status? with
    | none =>
      -- the call says nothing, so the first status is that of the others
      rw [hcall] at h
      exact ih h
    | some code =>
      -- it is the first to say something, and what it says is final
      rw [hcall] at h
      rw [Option.filter_some, if_pos (h code rfl)]

/-- **Behind a layer that remembers the first status**: what is heard below, `j`, given what is
heard above, `k`. -/
structure Latched (j k : Statuses) : Prop where
  first : j.first = k.first
  final : j.final.getD 200 = k.bound
  untold : k.first = none → j.final = none

namespace Latched

variable {j k : Statuses}

theorem start : Latched {} {} := ⟨rfl, rfl, fun _ => rfl⟩

/-- The first status is passed on. -/
theorem pass (h : Latched j k) (hk : k.first = none) (code : Status) :
    Latched (j.hear code) (k.hear code) := by
  have hj : j.final = none := h.untold hk
  refine ⟨?_, ?_, fun hnone => ?_⟩
  · rw [hear, hear, h.first]
  · simp only [hear, bound, hj, hk, Option.none_or]
  · simp [hear] at hnone

/-- Later ones are not. -/
theorem ignore (h : Latched j k) (hk : k.first.isSome) (code : Status) :
    Latched j (k.hear code) := by
  have hsame := hear_first_of_isSome hk code
  refine ⟨h.first.trans hsame.symm, h.final.trans (bound_congr hsame).symm, fun hnone => ?_⟩
  exact h.untold (hsame.symm.trans hnone)

/-- What is implied below a status does not change it. -/
theorem settle (h : Latched j k) (hk : k.first.isSome) : Latched (j.hear 200) k := by
  have hj : j.first.isSome := h.first.symm ▸ hk
  refine ⟨(hear_first_of_isSome hj 200).trans h.first, ?_, fun hnone => ?_⟩
  · rw [← h.final, hear]
    cases j.final <;> rfl
  · rw [hnone] at hk
    exact absurd hk Bool.false_ne_true

/-- A write or a flush is passed on, and implies `200` above and below. -/
theorem imply (h : Latched j k) : Latched (j.hear 200) (k.hear 200) := by
  cases hk : k.first with
  | none => exact h.pass hk 200
  | some code =>
    have hsome : k.first.isSome := Option.isSome_of_eq_some hk
    exact (h.ignore hsome 200).settle (hear_first_isSome k 200)

/-- A status that was held back, or `200` without one, goes down first of all. -/
theorem held (k : Statuses) : Latched (({} : Statuses).hear (k.first.getD 200)) (k.hear 200) := by
  refine ⟨?_, ?_, fun hnone => ?_⟩
  · rw [hear, hear, Option.none_or, Option.or_some]
  · simp only [hear, bound, Option.none_or, Option.or_some]
  · simp [hear] at hnone

end Latched

end Statuses

/-! ### Sinks that hear the status -/

namespace Sink

variable {ω : Type} [Sink ω]

/-- **Hearing the status.** No write is cut short, no flush is refused, and what was heard of
the status changes with each request as it should. -/
structure Hears (R : Statuses → ω → Prop) : Prop where
  setHeaders : ∀ {k w}, R k w → ∀ headers, R k (Sink.setHeaders w headers)
  sendStatus : ∀ {k w}, R k w → ∀ code, R (k.hear code) (Sink.sendStatus w code)
  write : ∀ {k w}, R k w → ∀ data,
    ∃ w', Sink.write w data = (.accepted data.length, w') ∧ R (k.hear 200) w'
  flush : ∀ {k w}, R k w → ∃ w', Sink.flush w = (.ok (), w') ∧ R (k.hear 200) w'

namespace Hears

variable {R : Statuses → ω → Prop} {k : Statuses} {w : ω}

/-- Writing everything takes one write, or none for nothing. -/
theorem writeAll (hR : Hears R) (h : R k w) (data : Bytes) :
    ∃ w', Sink.writeAll w data = (.ok (), w') ∧
      (data = [] → w' = w) ∧ (data ≠ [] → R (k.hear 200) w') := by
  by_cases hd : data = []
  · rw [hd, Sink.writeAll_nil]
    exact ⟨w, rfl, fun _ => rfl, fun hne => absurd rfl hne⟩
  · obtain ⟨w', hwrite, hw'⟩ := hR.write h data
    exact ⟨w', Sink.writeAll_of_write hd hwrite, fun hnil => absurd hnil hd, fun _ => hw'⟩

/-- **One call.** -/
theorem perform (hR : Hears R) (h : R k w) (call : Call) (hcall : call.isPlain = true) :
    R (k.append (.ofCalls [call])) (call.perform w).2 := by
  -- a call that says nothing of the status
  have hsilent {w' : ω} (hw : R k w') (hnone : call.status? = none) :
      R (k.append (.ofCalls [call])) w' := by
    have hk : k.append (.ofCalls [call]) = k := by
      simp [Statuses.append, Statuses.ofCalls, hnone]
    rwa [hk]
  have hsays {w' : ω} {code : Status} (hw : R (k.hear code) w')
      (hsome : call.status? = some code) : R (k.append (.ofCalls [call])) w' := by
    have hk : k.append (.ofCalls [call]) = k.hear code := by
      simp only [Statuses.append, Statuses.ofCalls, List.findSome?_singleton, hsome,
        Statuses.hear]
    rwa [hk]
  have hheader (hheader : call.isHeader = true) : R k (call.perform w).2 := by
    rcases Call.perform_isHeader hheader w with hsame | ⟨headers, hset⟩
    · rwa [hsame]
    · rw [hset]
      exact hR.setHeaders h headers
  cases call with
  | set name value => exact hsilent (hheader rfl) rfl
  | append name value => exact hsilent (hheader rfl) rfl
  | remove name => exact hsilent (hheader rfl) rfl
  | get name => exact hsilent (hheader rfl) rfl
  | status code =>
    simp only [Call.perform]
    split_ifs with hvalid
    · exact hsays (hR.sendStatus h code) (if_pos hvalid)
    · exact hsilent h (if_neg hvalid)
  | write data =>
    obtain ⟨w', hwrite, hw'⟩ := hR.write h data
    simp only [Call.perform, hwrite]
    exact hsays hw' rfl
  | writeAll data =>
    obtain ⟨w', hwrite, hnil, hne⟩ := hR.writeAll h data
    simp only [Call.perform, hwrite]
    by_cases hd : data = []
    · rw [hnil hd]
      exact hsilent h (by rw [Call.status?, hd]; rfl)
    · have hfull : data.isEmpty = false := by simpa using hd
      exact hsays (hne hd) (by rw [Call.status?, hfull, if_neg Bool.false_ne_true])
  | flush =>
    obtain ⟨w', hflush, hw'⟩ := hR.flush h
    simp only [Call.perform, hflush]
    exact hsays hw' rfl
  | hijack answer => exact absurd hcall Bool.false_ne_true
  | errorReply code message => exact absurd hcall Bool.false_ne_true

/-- **Any number of calls.** -/
theorem performAll (hR : Hears R) (calls : List Call)
    (hcalls : ∀ call ∈ calls, call.isPlain = true) (h : R k w) :
    R (k.append (.ofCalls calls)) (Call.performAll calls w).2 := by
  induction calls generalizing k w with
  | nil =>
    have hk : k.append (.ofCalls []) = k := by simp [Statuses.append, Statuses.ofCalls]
    rwa [hk]
  | cons call calls ih =>
    have hfirst := hR.perform h call (hcalls call List.mem_cons_self)
    have hrest := ih (fun c hc => hcalls c (List.mem_cons_of_mem _ hc)) hfirst
    -- what the first call says comes before what the others say
    have hk : (k.append (.ofCalls [call])).append (.ofCalls calls)
        = k.append (.ofCalls (call :: calls)) := by
      simp only [Statuses.append, Statuses.ofCalls, Option.or_assoc, List.findSome?_cons,
        List.findSome?_nil]
      cases call.status? with
      | none => rfl
      | some code => cases hfinal : Status.final code <;> simp [Option.filter, hfinal]
    rwa [hk] at hrest

end Hears

end Sink

/-! ### What each kind of layer lets the sink below hear -/

namespace Statuses

/-- **Below a layer that remembers the first status.** -/
def Below {ω : Type} (R : Statuses → ω → Prop) (k : Statuses) (w : ω) : Prop :=
  ∃ j, Latched j k ∧ R j w

namespace Below

variable {ω : Type} {R : Statuses → ω → Prop} {k : Statuses} {w : ω}

theorem ignore (h : Below R k w) (hk : k.first.isSome) (code : Status) :
    Below R (k.hear code) w := by
  obtain ⟨j, hjk, hj⟩ := h
  exact ⟨j, hjk.ignore hk code, hj⟩

variable [Sink ω]

theorem setHeaders (hR : Sink.Hears R) (h : Below R k w) (headers : Headers) :
    Below R k (Sink.setHeaders w headers) := by
  obtain ⟨j, hjk, hj⟩ := h
  exact ⟨j, hjk, hR.setHeaders hj headers⟩

/-- A write goes through, and the status above is implied with it. -/
theorem write (hR : Sink.Hears R) (h : Below R k w) (data : Bytes) :
    ∃ w', Sink.write w data = (.accepted data.length, w') ∧ Below R (k.hear 200) w' := by
  obtain ⟨j, hjk, hj⟩ := h
  obtain ⟨w', hwrite, hw'⟩ := hR.write hj data
  exact ⟨w', hwrite, _, hjk.imply, hw'⟩

theorem flush (hR : Sink.Hears R) (h : Below R k w) :
    ∃ w', Sink.flush w = (.ok (), w') ∧ Below R (k.hear 200) w' := by
  obtain ⟨j, hjk, hj⟩ := h
  obtain ⟨w', hflush, hw'⟩ := hR.flush hj
  exact ⟨w', hflush, _, hjk.imply, hw'⟩

/-- What a layer with a status writes of its own accord. -/
theorem writeAll (hR : Sink.Hears R) (h : Below R k w) (hk : k.first.isSome) (data : Bytes) :
    ∃ w', Sink.writeAll w data = (.ok (), w') ∧ Below R k w' := by
  obtain ⟨j, hjk, hj⟩ := h
  obtain ⟨w', hwrite, hnil, hne⟩ := hR.writeAll hj data
  refine ⟨w', hwrite, ?_⟩
  by_cases hd : data = []
  · rw [hnil hd]
    exact ⟨j, hjk, hj⟩
  · exact ⟨_, hjk.settle hk, hne hd⟩

end Below

end Statuses

open Statuses (Below)

/-- **A status layer** reports the first status that it hears. -/
structure StatusLayer.Hears {ω : Type} (R : Statuses → ω → Prop) (k : Statuses)
    (l : StatusLayer ω) : Prop where
  status : l.status = k.first
  hijacked : l.hijacked = false
  inner : Below R k l.inner

theorem StatusLayer.hears {ω : Type} [Sink ω] {R : Statuses → ω → Prop} (hR : Sink.Hears R) :
    Sink.Hears (StatusLayer.Hears R) where
  setHeaders := fun h headers => ⟨h.status, h.hijacked, h.inner.setHeaders hR headers⟩
  sendStatus := by
    intro k l h code
    show StatusLayer.Hears R _ (l.sendStatus code)
    unfold StatusLayer.sendStatus
    split
    · -- a status is remembered, so this one does not get through
      rename_i first hfirst
      have hk : k.first.isSome := Option.isSome_of_eq_some (h.status.symm.trans hfirst)
      refine ⟨?_, h.hijacked, h.inner.ignore hk code⟩
      rw [Statuses.hear_first_of_isSome hk, h.status]
    · -- the first status, interim or not
      rename_i hnone
      have hk : k.first = none := h.status.symm.trans hnone
      obtain ⟨j, hjk, hj⟩ := h.inner
      refine ⟨?_, h.hijacked, _, hjk.pass hk code, hR.sendStatus hj code⟩
      rw [Statuses.hear, hk, Option.none_or]
  write := by
    intro k l h data
    obtain ⟨w', hwrite, hw'⟩ := h.inner.write hR data
    refine ⟨{ l.imply 200 with inner := w', bytesWritten := l.bytesWritten + data.length },
      ?_, ?_, h.hijacked, hw'⟩
    · show l.write data = _
      simp only [StatusLayer.write, StatusLayer.imply, hwrite]
    · show some (l.status.getD 200) = _
      rw [h.status, Statuses.hear, Option.or_some]
  flush := by
    intro k l h
    obtain ⟨w', hflush, hw'⟩ := h.inner.flush hR
    refine ⟨{ l.imply 200 with inner := w' }, ?_, ?_, h.hijacked, hw'⟩
    · show l.flush = _
      simp only [StatusLayer.flush, hflush]
    · show some (l.status.getD 200) = _
      rw [h.status, Statuses.hear, Option.or_some]

/-- The sink below **a commit layer** hears the same. -/
theorem CommitLayer.hears {ω : Type} [Sink ω] {R : Statuses → ω → Prop} (hR : Sink.Hears R) :
    Sink.Hears fun k (l : CommitLayer ω) => R k l.inner where
  setHeaders := fun h headers => hR.setHeaders h headers
  sendStatus := fun h code => hR.sendStatus h code
  write := by
    intro k l h data
    obtain ⟨w', hwrite, hw'⟩ := hR.write h data
    refine ⟨{ inner := w', written := true }, ?_, hw'⟩
    show l.write data = _
    simp only [CommitLayer.write, hwrite]
  flush := by
    intro k l h
    obtain ⟨w', hflush, hw'⟩ := hR.flush h
    refine ⟨{ inner := w', written := true }, ?_, hw'⟩
    show l.flush = _
    simp only [CommitLayer.flush, hflush]

/-- So does the sink below **an open layer** without a memory. -/
theorem PassLayer.hears {ω : Type} [Sink ω] {R : Statuses → ω → Prop} (hR : Sink.Hears R) :
    Sink.Hears fun k (l : PassLayer ω) => l.closed = false ∧ R k l.inner where
  setHeaders := fun h headers => ⟨h.1, hR.setHeaders h.2 headers⟩
  sendStatus := fun h code => ⟨h.1, hR.sendStatus h.2 code⟩
  write := by
    intro k l h data
    obtain ⟨w', hwrite, hw'⟩ := hR.write h.2 data
    refine ⟨{ l with inner := w' }, ?_, h.1, hw'⟩
    show ((Sink.write l.inner data).1, { l with inner := (Sink.write l.inner data).2 }) = _
    rw [hwrite]
  flush := by
    intro k l h
    obtain ⟨w', hflush, hw'⟩ := hR.flush h.2
    refine ⟨{ l with inner := w' }, ?_, h.1, hw'⟩
    show l.flush = _
    rw [PassLayer.flush, h.1, if_neg Bool.false_ne_true, hflush]

namespace GzipLayer

variable {ε ω : Type} [Deflater ε] [Sink ω] {R : Statuses → ω → Prop} {k : Statuses}

/-- **A compression layer** holds the first status back until the decision. -/
structure Hears (R : Statuses → ω → Prop) (k : Statuses) (l : GzipLayer (GzipStream ε) ω) :
    Prop where
  hijacked : l.hijacked = false
  commitFailure : l.commitFailure = none
  isOpen : l.stream.finished = false
  status : l.status = k.first
  /-- Nothing is heard below before the decision, which some write or flush has brought about. -/
  inner : l.decision = .pending ∧ R {} l.inner ∨
    l.decision ≠ .pending ∧ k.first.isSome ∧ Below R k l.inner

/-- What a layer with a status compresses goes down. -/
theorem below_streamWrite (hR : Sink.Hears R) {s : GzipStream ε} (hs : s.finished = false)
    {w : ω} (h : Below R k w) (hk : k.first.isSome) (data : Bytes) :
    ∃ s' w', MemberStream.write s data w = (.ok (), s', w') ∧ s'.finished = false ∧
      Below R k w' := by
  obtain ⟨w', hwrite, hw'⟩ :=
    h.writeAll hR hk (s.pendingHeader ++ (Deflater.push s.encoder data).2)
  rw [GzipStream.memberStream_write, GzipStream.write, hs, if_neg Bool.false_ne_true]
  simp only [hwrite]
  exact ⟨_, w', rfl, rfl, hw'⟩

theorem below_streamFlush (hR : Sink.Hears R) {s : GzipStream ε} (hs : s.finished = false)
    {w : ω} (h : Below R k w) (hk : k.first.isSome) :
    ∃ s' w', MemberStream.flush s w = (.ok (), s', w') ∧ s'.finished = false ∧ Below R k w' := by
  obtain ⟨w', hwrite, hw'⟩ := h.writeAll hR hk (s.pendingHeader ++ (Deflater.sync s.encoder).2)
  rw [GzipStream.memberStream_flush, GzipStream.flush, hs, if_neg Bool.false_ne_true]
  simp only [hwrite]
  exact ⟨_, w', rfl, rfl, hw'⟩

theorem below_streamFinish (hR : Sink.Hears R) {s : GzipStream ε} (hs : s.finished = false)
    {w : ω} (h : Below R k w) (hk : k.first.isSome) :
    ∃ s' w', MemberStream.finish s w = (.ok (), s', w') ∧ Below R k w' := by
  obtain ⟨w₁, htail, hw₁⟩ := h.writeAll hR hk (s.pendingHeader ++ (Deflater.finish s.encoder).2)
  obtain ⟨w₂, htrailer, hw₂⟩ := hw₁.writeAll hR hk (Member.trailer s.checksum.value s.length)
  rw [GzipStream.memberStream_finish, GzipStream.finish, hs, if_neg Bool.false_ne_true]
  simp only [htail, htrailer]
  exact ⟨_, w₂, rfl, hw₂⟩

namespace Hears

variable {l : GzipLayer (GzipStream ε) ω}

omit [Deflater ε] [Sink ω] in
/-- After the decision the sink below has been told the status. -/
theorem told (h : Hears R k l) (hd : l.decision ≠ .pending) :
    k.first.isSome ∧ Below R k l.inner := by
  rcases h.inner with ⟨hpending, -⟩ | ⟨-, hk, hbelow⟩
  · exact absurd hpending hd
  · exact ⟨hk, hbelow⟩

/-- **The buffer goes down.** -/
theorem release (hR : Sink.Hears R) (hd : l.decision ≠ .pending) (hk : k.first.isSome)
    (hh : l.hijacked = false) (hf : l.commitFailure = none) (hs : l.stream.finished = false)
    (hstatus : l.status = k.first) (h : Below R k l.inner) : Hears R k l.release := by
  unfold GzipLayer.release
  split_ifs
  · exact ⟨hh, hf, hs, hstatus, .inr ⟨hd, hk, h⟩⟩
  · cases hdecision : l.decision with
    | pending => exact absurd hdecision hd
    | compress =>
      obtain ⟨s', w', hwrite, hs', hw'⟩ := below_streamWrite hR hs h hk l.buffer
      simp only [hwrite]
      exact ⟨hh, rfl, hs', hstatus, .inr ⟨by simp, hk, hw'⟩⟩
    | skip =>
      obtain ⟨w', hwrite, hw'⟩ := h.writeAll hR hk l.buffer
      simp only [hwrite]
      exact ⟨hh, rfl, hs, hstatus, .inr ⟨by simp, hk, hw'⟩⟩

/-- **The decision falls**, and the first status goes down, implied or not. -/
theorem commit (hR : Sink.Hears R) (h : Hears R k l) :
    Hears R (k.hear 200) l.commit ∧ l.commit.decision ≠ .pending := by
  rcases h.inner with ⟨hd, hinner⟩ | ⟨hd, hk, hbelow⟩
  · -- the status that was held back is the first thing that is heard below
    have hfirst : some (l.status.getD 200) = (k.hear 200).first := by
      rw [h.status, Statuses.hear, Option.or_some]
    have hsent {w : ω} (hw : R {} w) :
        Below R (k.hear 200) (Sink.sendStatus w (l.status.getD 200)) := by
      rw [h.status]
      exact ⟨_, .held k, hR.sendStatus hw _⟩
    refine ⟨?_, commit_ne_pending l⟩
    have hk := Statuses.hear_first_isSome k 200
    simp only [GzipLayer.commit, hd]
    rcases decide_cases (Sink.headers l.inner) (l.status.getD 200) l.minSize l.buffer
      with hskip | ⟨hcompress, -⟩
    · simp only [hskip]
      exact release hR (by simp) hk h.hijacked h.commitFailure h.isOpen hfirst (hsent hinner)
    · simp only [hcompress]
      exact release hR (by simp) hk h.hijacked h.commitFailure h.isOpen hfirst
        (hsent (hR.setHeaders hinner _))
  · -- the decision has fallen before
    rw [commit_of_ne hd]
    refine ⟨⟨h.hijacked, h.commitFailure, h.isOpen, ?_, .inr ⟨hd, ?_, hbelow.ignore hk 200⟩⟩, hd⟩
    · rw [Statuses.hear_first_of_isSome hk, h.status]
    · exact Statuses.hear_first_isSome k 200

omit [Deflater ε] [Sink ω] in
theorem sendStatus (h : Hears R k l) (code : Status) :
    Hears R (k.hear code) (l.sendStatus code) := by
  refine ⟨h.hijacked, h.commitFailure, h.isOpen, ?_, ?_⟩
  · show some (l.status.getD code) = _
    rw [h.status, Statuses.hear, Option.or_some]
  · rcases h.inner with hpending | ⟨hd, hk, hbelow⟩
    · exact .inl hpending
    · exact .inr ⟨hd, Statuses.hear_first_isSome k code, hbelow.ignore hk code⟩

/-- **A write** is taken whole, wherever it goes. -/
theorem write (hR : Sink.Hears R) (h : Hears R k l) (data : Bytes) :
    ∃ l', l.write data = (.accepted data.length, l') ∧ Hears R (k.hear 200) l' := by
  have hfirst : Hears R (k.hear 200) (l.sendStatus 200) := h.sendStatus 200
  rw [GzipLayer.write, h.hijacked, if_neg Bool.false_ne_true]
  simp only [h.commitFailure]
  generalize l.sendStatus 200 = m at hfirst
  rcases hfirst.inner with ⟨hd, hinner⟩ | ⟨hd, hk, hbelow⟩
  · -- the data are held back, or the decision falls
    have hadded : Hears R (k.hear 200) { m with buffer := m.buffer ++ data } :=
      ⟨hfirst.hijacked, hfirst.commitFailure, hfirst.isOpen, hfirst.status, .inl ⟨hd, hinner⟩⟩
    simp only [hd]
    unfold GzipLayer.collect
    simp only
    split_ifs
    · exact ⟨_, by rw [GzipLayer.report, hadded.commitFailure], hadded⟩
    · have hcommitted := (hadded.commit hR).1
      rw [Statuses.hear_hear] at hcommitted
      exact ⟨_, by rw [GzipLayer.report, hcommitted.commitFailure], hcommitted⟩
  · cases hdecision : m.decision with
    | pending => exact absurd hdecision hd
    | compress =>
      obtain ⟨s', w', hwrite, hs', hw'⟩ := below_streamWrite hR hfirst.isOpen hbelow hk data
      refine ⟨{ m with stream := s', inner := w' }, ?_, hfirst.hijacked, hfirst.commitFailure,
        hs', hfirst.status, .inr ⟨hd, hk, hw'⟩⟩
      simp only [GzipLayer.compressOn, hwrite]
    | skip =>
      obtain ⟨w', hwrite, hw'⟩ := hbelow.write hR data
      rw [Statuses.hear_hear] at hw'
      refine ⟨{ m with inner := w' }, ?_, hfirst.hijacked, hfirst.commitFailure, hfirst.isOpen,
        hfirst.status, .inr ⟨hd, hk, hw'⟩⟩
      simp only [GzipLayer.passOn, hwrite]

/-- **A flush** goes through. -/
theorem flush (hR : Sink.Hears R) (h : Hears R k l) :
    ∃ l', l.flush = (.ok (), l') ∧ Hears R (k.hear 200) l' := by
  obtain ⟨hcommitted, hd⟩ := h.commit hR
  rw [GzipLayer.flush, h.hijacked, if_neg Bool.false_ne_true]
  simp only [hcommitted.commitFailure]
  generalize l.commit = m at hcommitted hd
  obtain ⟨hk, hbelow⟩ := hcommitted.told hd
  cases hdecision : m.decision with
  | pending => exact absurd hdecision hd
  | compress =>
    -- the stream writes to the sink below before that is flushed itself
    obtain ⟨s', w₁, hstream, hs', hw₁⟩ := below_streamFlush hR hcommitted.isOpen hbelow hk
    obtain ⟨w₂, hflush, hw₂⟩ := hw₁.flush hR
    rw [Statuses.hear_hear] at hw₂
    simp only [hstream, hflush]
    exact ⟨_, rfl, hcommitted.hijacked, rfl, hs', hcommitted.status, .inr ⟨by simp, hk, hw₂⟩⟩
  | skip =>
    obtain ⟨w', hflush, hw'⟩ := hbelow.flush hR
    rw [Statuses.hear_hear] at hw'
    simp only [hflush]
    exact ⟨_, rfl, hcommitted.hijacked, rfl, hcommitted.isOpen, hcommitted.status,
      .inr ⟨by simp, hk, hw'⟩⟩

/-- **At the end** the status is down, implied or not. -/
theorem close (hR : Sink.Hears R) (h : Hears R k l) : Below R (k.hear 200) l.close.2.inner := by
  obtain ⟨hcommitted, hd⟩ := h.commit hR
  rw [GzipLayer.close, h.hijacked, if_neg Bool.false_ne_true]
  simp only [hcommitted.commitFailure]
  generalize l.commit = m at hcommitted hd
  obtain ⟨hk, hbelow⟩ := hcommitted.told hd
  cases hdecision : m.decision with
  | pending => exact absurd hdecision hd
  | compress =>
    obtain ⟨s', w', hfinish, hw'⟩ := below_streamFinish hR hcommitted.isOpen hbelow hk
    simp only [hfinish]
    exact hw'
  | skip => exact hbelow

end Hears

theorem hears (hR : Sink.Hears R) : Sink.Hears
    (Hears R : Statuses → GzipLayer (GzipStream ε) ω → Prop) where
  setHeaders := by
    intro k l h headers
    refine ⟨h.hijacked, h.commitFailure, h.isOpen, h.status, ?_⟩
    rcases h.inner with ⟨hd, hinner⟩ | ⟨hd, hk, hbelow⟩
    · exact .inl ⟨hd, hR.setHeaders hinner headers⟩
    · exact .inr ⟨hd, hk, hbelow.setHeaders hR headers⟩
  sendStatus := fun h code => h.sendStatus code
  write := fun h data => h.write hR data
  flush := fun h => h.flush hR

end GzipLayer

/-! ### The channel at the bottom -/

/-- **A channel** sends the first final status, as long as its client wants the body. -/
structure Polled.Hears (k : Statuses) (p : Polled) : Prop where
  bodyWanted : p.channel.bodyWanted = true
  sent : p.channel.sent.map Head.status = k.final

namespace Polled

theorem hears_start (polls : List Nat) : Hears {} { polls } := ⟨rfl, rfl⟩

namespace Hears

variable {k : Statuses} {p : Polled}

theorem turn (h : Hears k p) : Hears k p.turn := by
  have hrest := p.turn_spec.2
  have hwanted : p.turn.channel.unqueued.bodyWanted = p.channel.unqueued.bodyWanted := by
    rw [hrest]
  have hsent : p.turn.channel.unqueued.sent = p.channel.unqueued.sent := by rw [hrest]
  exact ⟨hwanted.trans h.bodyWanted, (congrArg (Option.map Head.status) hsent).trans h.sent⟩

/-- The head is sent, unless it was. -/
theorem sendHead (h : Hears k p) (code : Status) (hcode : Status.final code = true) :
    Hears (k.hear code) { p with channel := p.channel.sendHead code } := by
  have hheard : (k.hear code).final = k.final.or (some code) := by
    rw [Statuses.hear, Option.filter_some, if_pos hcode]
  unfold Channel.sendHead
  split
  · rename_i head hsent
    refine ⟨h.bodyWanted, ?_⟩
    rw [hheard, ← h.sent, hsent]
    rfl
  · rename_i hnone
    refine ⟨h.bodyWanted, ?_⟩
    rw [hheard, ← h.sent, hnone]
    rfl

/-- What is pending is queued, and the head stays. -/
theorem push (h : Hears k p) :
    ∃ c, p.channel.push = (.ok (), c) ∧ Hears k { p with channel := c } := by
  unfold Channel.push
  rw [if_pos h.bodyWanted]
  split_ifs
  · exact ⟨_, rfl, h⟩
  · exact ⟨_, rfl, h.bodyWanted, h.sent⟩

end Hears

theorem hears : Sink.Hears Hears where
  setHeaders := fun h _ => ⟨h.bodyWanted, h.sent⟩
  sendStatus := by
    intro k p h code
    show Hears _ { p.turn with channel := p.turn.channel.sendStatus code }
    unfold Channel.sendStatus
    split_ifs with hcode
    · exact h.turn.sendHead code hcode
    · -- an interim status is dropped
      refine ⟨h.turn.bodyWanted, ?_⟩
      rw [Statuses.hear, Option.filter_some, if_neg hcode, Option.or_none]
      exact h.turn.sent
  write := by
    intro k p h data
    have hhead := h.turn.sendHead 200 rfl
    -- the head is out before a byte is queued, so the bytes do not matter
    have hpending : Hears (k.hear 200) { p.turn with channel := { p.turn.channel.sendHead 200 with
        pending := (p.turn.channel.sendHead 200).pending ++ data } } :=
      ⟨hhead.bodyWanted, hhead.sent⟩
    show ∃ w', p.write data = _ ∧ _
    unfold Polled.write Channel.write
    simp only
    split_ifs
    · exact ⟨_, rfl, hpending⟩
    · obtain ⟨c, hpush, hc⟩ := hpending.push
      rw [hpush]
      exact ⟨_, rfl, hc⟩
  flush := by
    intro k p h
    obtain ⟨c, hpush, hc⟩ := (h.turn.sendHead 200 rfl).push
    show ∃ w', p.flush = _ ∧ _
    simp only [Polled.flush, Channel.flush, hpush]
    exact ⟨_, rfl, hc⟩

/-- **The status of the response** once it is finished. -/
theorem Hears.finish {k : Statuses} {p : Polled} (h : Hears k p) :
    p.finish.channel.sent.map Head.status = some (k.final.getD 200) := by
  obtain ⟨c, hpush, hc⟩ := (h.sendHead 200 rfl).push
  have hsent := hc.sent
  rw [Statuses.hear] at hsent
  simp only [Polled.finish, Channel.finish, hpush]
  rw [hsent]
  exact Option.or_some

end Polled

/-! ### Towers -/

namespace Stack

variable {ε : Type} [Deflater ε]

/-- **A tower over a channel**, layer by layer. -/
def Hears : (s : Stack) → Statuses → s.Writer (GzipStream ε) Polled → Prop
  | bottom => Polled.Hears
  | status below => StatusLayer.Hears (Hears below)
  | commit below => fun k (l : CommitLayer (below.Writer (GzipStream ε) Polled)) =>
    Hears below k l.inner
  | pass below => fun k (l : PassLayer (below.Writer (GzipStream ε) Polled)) =>
    l.closed = false ∧ Hears below k l.inner
  | gzip below => GzipLayer.Hears (Hears below)

theorem hears (s : Stack) :
    Sink.Hears (Hears s : Statuses → s.Writer (GzipStream ε) Polled → Prop) := by
  induction s with
  | bottom => exact Polled.hears
  | status below ih => exact StatusLayer.hears ih
  | commit below ih => exact CommitLayer.hears ih
  | pass below ih => exact PassLayer.hears ih
  | gzip below ih => exact GzipLayer.hears ih

/-- Whether some layer remembers the first status, so that nothing else gets through. -/
def latches : Stack → Bool
  | bottom => false
  | status _ => true
  | commit below => latches below
  | pass below => latches below
  | gzip _ => true

/-- The status that a tower sends, given what it hears. -/
def delivers (s : Stack) (k : Statuses) : Status :=
  if s.latches then k.bound else k.final.getD 200

/-- Behind a layer that remembers the first status it makes no difference what is below. -/
theorem delivers_latched (s : Stack) {j k : Statuses} (h : Statuses.Latched j k) :
    s.delivers j = k.bound := by
  rw [delivers]
  split_ifs
  · exact Statuses.bound_congr h.first
  · exact h.final

/-- **Taking a tower apart.** The channel sends what the tower is bound to deliver, and every
status layer reports the first status that the tower has heard. -/
theorem Hears.unwind (s : Stack) {k : Statuses} {w : s.Writer (GzipStream ε) Polled}
    (h : Hears s k w) :
    (∃ j, Polled.Hears j (s.unwind [] w).2 ∧ j.final.getD 200 = s.delivers k) ∧
      ∀ removed ∈ (s.unwind [] w).1, ∀ status effective hijacked bytesWritten,
        removed.state = .status status effective hijacked bytesWritten →
        effective = k.first.getD 200 := by
  -- each layer hands on less than it hears, so the ledger changes from layer to layer
  induction s generalizing k with
  | bottom => exact ⟨⟨k, h, rfl⟩, fun removed hremoved => absurd hremoved List.not_mem_nil⟩
  | status below ih =>
    obtain ⟨j, hjk, hj⟩ := StatusLayer.Hears.inner h
    obtain ⟨⟨i, hi, hfinal⟩, hbelow⟩ := ih hj
    refine ⟨⟨i, hi, hfinal.trans (below.delivers_latched hjk)⟩, ?_⟩
    intro removed hremoved status effective hijacked bytesWritten hstate
    rcases List.mem_cons.mp hremoved with rfl | hrest
    · -- the layer that was just taken off
      have heffective : StatusLayer.effectiveStatus w = effective :=
        (LayerState.status.inj hstate).2.1
      rw [← heffective]
      show (StatusLayer.status w).getD (if StatusLayer.hijacked w then 101 else 200) = _
      rw [StatusLayer.Hears.status h, StatusLayer.Hears.hijacked h, if_neg Bool.false_ne_true]
    · rw [hbelow removed hrest _ _ _ _ hstate, hjk.first]
  | commit below ih =>
    obtain ⟨hfinal, hbelow⟩ := ih h
    refine ⟨hfinal, fun removed hremoved => ?_⟩
    rcases List.mem_cons.mp hremoved with rfl | hrest
    · exact fun status effective hijacked bytesWritten hstate => absurd hstate (by simp)
    · exact hbelow removed hrest
  | pass below ih => exact ih h.2
  | gzip below ih =>
    -- taking a compression layer off closes it first
    obtain ⟨j, hjk, hj⟩ := GzipLayer.Hears.close (hears below) h
    obtain ⟨⟨i, hi, hfinal⟩, hbelow⟩ := ih hj
    refine ⟨⟨i, hi, ?_⟩, fun removed hremoved => ?_⟩
    · exact hfinal.trans ((below.delivers_latched hjk).trans k.bound_hear)
    · rcases List.mem_cons.mp hremoved with rfl | hrest
      · exact fun status effective hijacked bytesWritten hstate =>
          absurd hstate (by simp [GzipLayer.state])
      · intro status effective hijacked bytesWritten hstate
        rw [hbelow removed hrest _ _ _ _ hstate, hjk.first, Statuses.hear, Option.or_some]
        rfl

end Stack

namespace Tower

variable {ε : Type} [Deflater ε]

/-- One more layer, as it is before any part of a response. -/
theorem hears_add {t : Tower (GzipStream ε) Polled} (h : t.shape.Hears {} t.writer)
    {kind : LayerKind}
    (hkind : kind ≠ .pass true) : (t.add kind).shape.Hears {} (t.add kind).writer := by
  cases kind with
  | status => exact ⟨rfl, rfl, {}, .start, h⟩
  | commit => exact h
  | pass closed =>
    cases closed with
    | false => exact ⟨rfl, h⟩
    | true => exact absurd rfl hkind
  | gzip minSize level => exact ⟨rfl, rfl, rfl, rfl, .inl ⟨rfl, h⟩⟩

/-- **A tower of open layers** over a channel of which nothing has been asked. -/
theorem hears_ofLayers (polls : List Nat) (kinds : List LayerKind) (hopen : .pass true ∉ kinds) :
    let tower : Tower (GzipStream ε) Polled := ofLayers { polls } kinds
    tower.shape.Hears {} tower.writer := by
  refine ofLayers_induction
    (motive := fun t : Tower (GzipStream ε) Polled => t.shape.Hears {} t.writer)
    (Polled.hears_start polls) kinds (fun t kind hkind ht => hears_add ht ?_)
  rintro rfl
  exact hopen hkind

/-- **The status behind a tower.** Let header edits, statuses, writes and flushes go to a tower
of status, commit and compression layers, as many as one likes and in any order, over a channel
whose client may poll at any time; then take the tower apart and finish the response.

* The bare channel sends the first final status, and `200` without one.
* The tower sends the same, unless some layer remembers the first status. Then that one counts
  if it is final, and otherwise `200`.
* Every status layer reports the first status, whatever it is.

So if the first status is not an interim one, the tower sends what the bare channel sends and
every status layer reports just that. -/
theorem statuses_unwind (polls : List Nat) (kinds : List LayerKind) (hopen : .pass true ∉ kinds)
    (calls : List Call) (hcalls : ∀ call ∈ calls, call.isPlain = true) :
    let tower : Tower (GzipStream ε) Polled := ofLayers { polls } kinds
    let ended := tower.shape.unwind [] (Call.performAll calls tower.writer).2
    let delivered := ended.2.finish.channel.sent.map Head.status
    let bare := (Call.performAll calls ({ polls } : Polled)).2.finish.channel.sent.map Head.status
    let told := Statuses.ofCalls calls
    bare = some (told.final.getD 200) ∧
    delivered = some (if tower.shape.latches then told.bound else told.final.getD 200) ∧
    (∀ removed ∈ ended.1, ∀ status effective hijacked bytesWritten,
      removed.state = .status status effective hijacked bytesWritten →
      effective = told.first.getD 200) ∧
    ((∀ code, told.first = some code → Status.final code = true) →
      delivered = bare ∧ bare = some (told.first.getD 200)) := by
  intro tower ended delivered bare told
  have htold : ({} : Statuses).append told = told := by
    simp only [Statuses.append, Option.none_or]
  have hbare : bare = some (told.final.getD 200) := by
    have hend := Polled.hears.performAll calls hcalls (Polled.hears_start polls)
    rw [htold] at hend
    exact hend.finish
  have hend := (Stack.hears tower.shape).performAll calls hcalls (hears_ofLayers polls kinds hopen)
  rw [htold] at hend
  obtain ⟨⟨j, hj, hfinal⟩, hreported⟩ := hend.unwind
  have hdelivered : delivered = some (tower.shape.delivers told) := by
    rw [← hfinal]
    exact hj.finish
  refine ⟨hbare, hdelivered, hreported, fun hnotInterim => ?_⟩
  -- the first status is the first final one, so it does not matter which of them counts
  have hsame := Statuses.final_ofCalls hnotInterim
  have hbound : told.bound = told.first.getD 200 := by
    rw [Statuses.bound]
    cases hfirst : told.first with
    | none => rfl
    | some code => rw [Option.filter_some, if_pos (hnotInterim code hfirst)]
  refine ⟨?_, hbare.trans (congrArg some hsame)⟩
  rw [hdelivered, hbare, Stack.delivers, hbound, hsame, ite_self]

/-- A status after which an interim one comes too late, behind one layer of each kind. -/
theorem statuses_unwind_created :
    let calls : List Call := [.status 201, .status 103, .write [1], .status 404]
    let kinds : List LayerKind := [.gzip 256 6, .status, .commit]
    let tower : Tower Stored Polled := ofLayers { polls := [1] } kinds
    let ended := tower.shape.unwind [] (Call.performAll calls tower.writer).2
    let delivered := ended.2.finish.channel.sent.map Head.status
    let bare := (Call.performAll calls
      ({ polls := [1] } : Polled)).2.finish.channel.sent.map Head.status
    let told := Statuses.ofCalls calls
    bare = some (told.final.getD 200) ∧
    delivered = some (if tower.shape.latches then told.bound else told.final.getD 200) ∧
    (∀ removed ∈ ended.1, ∀ status effective hijacked bytesWritten,
      removed.state = .status status effective hijacked bytesWritten →
      effective = told.first.getD 200) ∧
    ((∀ code, told.first = some code → Status.final code = true) →
      delivered = bare ∧ bare = some (told.first.getD 200)) :=
  statuses_unwind [1] _ (by decide) _ (by decide)

/-- Behind one status layer an interim status hides the final one that follows. The client sees
`200` and the layer reports `103`, where the bare channel sends `404`. -/
theorem interim_hides_final :
    let calls : List Call := [.status 103, .status 404]
    let tower : Tower Stored Polled := ofLayers {} [.status]
    let ended := tower.shape.unwind [] (Call.performAll calls tower.writer).2
    (Call.performAll calls ({} : Polled)).2.finish.channel.sent.map Head.status = some 404 ∧
      ended.2.finish.channel.sent.map Head.status = some 200 ∧
      ended.1.map Removed.state = [.status (some 103) 103 false 0] := by
  refine ⟨?_, ?_, ?_⟩ <;> rfl

end Tower

end HttpPipeline
