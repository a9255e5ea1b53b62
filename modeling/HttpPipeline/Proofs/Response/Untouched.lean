import HttpPipeline.Proofs.Response.Flushing

/-!
# What a response that is not committed has sent

A `CommitLayer` says of a response whether any part of it may have been committed. While it says
no, a reply that reports an error should still find the sink at the bottom untouched: no final
status and no body byte has reached it.

Requests that give a client nothing of a response are light: header edits, interim statuses, and
attempts to take the connection over, whatever comes of them. They stay light through every layer
(`Stack.outlastsLight`), so they leave the bottom untouched. Every other request but one sets the
flag, whether it succeeds or not. The exception is a flush, which sets the flag only if it
succeeds. Without a compression layer nothing but the flush itself reaches the bottom then. With
one, the decision falls before the flush goes on, and what is sent with it stays sent when the
flush fails.

So the flag can be trusted unless a flush through a compression layer has failed
(`CommitLayer.untouched_of_unwritten`), and it cannot be trusted then
(`CommitLayer.unwritten_after_lost_flush`).
-/

namespace HttpPipeline

/-! ### Light requests -/

/-- **A property that light requests do not end**: those that give a client nothing. -/
structure Sink.OutlastsLight {ω : Type} [Sink ω] (P : ω → Prop) : Prop where
  setHeaders : ∀ {w}, P w → ∀ headers, P (Sink.setHeaders w headers)
  sendInterim : ∀ {w}, P w → ∀ {code}, Status.final code = false → P (Sink.sendStatus w code)
  hijack : ∀ {w}, P w → ∀ answer, P (Sink.hijack w answer).2

section Layers

variable {ω : Type} [Sink ω] {P : ω → Prop}

theorem StatusLayer.outlastsLight (hP : Sink.OutlastsLight P) :
    Sink.OutlastsLight fun l : StatusLayer ω => P l.inner where
  setHeaders := fun h headers => hP.setHeaders h headers
  sendInterim := by
    intro l h code hcode
    show P (l.sendStatus code).inner
    unfold StatusLayer.sendStatus
    split
    · exact h
    · exact hP.sendInterim h hcode
  hijack := by
    intro l h answer
    rw [hijack_inner]
    exact hP.hijack h answer

theorem CommitLayer.outlastsLight (hP : Sink.OutlastsLight P) :
    Sink.OutlastsLight fun l : CommitLayer ω => P l.inner where
  setHeaders := fun h headers => hP.setHeaders h headers
  sendInterim := fun h _ hcode => hP.sendInterim h hcode
  hijack := by
    intro l h answer
    rw [hijack_inner]
    exact hP.hijack h answer

theorem PassLayer.outlastsLight (hP : Sink.OutlastsLight P) :
    Sink.OutlastsLight fun l : PassLayer ω => P l.inner where
  setHeaders := fun h headers => hP.setHeaders h headers
  sendInterim := fun h _ hcode => hP.sendInterim h hcode
  hijack := by
    intro l h answer
    show P (l.hijack answer).2.inner
    unfold PassLayer.hijack
    split_ifs
    · exact h
    · exact hP.hijack h answer

/-- A compression layer holds every status back. -/
theorem GzipLayer.outlastsLight {τ : Type} [MemberStream τ] (hP : Sink.OutlastsLight P) :
    Sink.OutlastsLight fun l : GzipLayer τ ω => P l.inner where
  setHeaders := fun h headers => hP.setHeaders h headers
  sendInterim := fun h _ _ => h
  hijack := by
    intro l h answer
    rw [hijack_inner]
    exact hP.hijack h answer

end Layers

namespace Stack

variable {τ σ : Type} [MemberStream τ] [Sink σ] {P : σ → Prop}

/-- **Light requests** to a tower are light for its bottom. -/
theorem outlastsLight (hP : Sink.OutlastsLight P) (s : Stack) :
    Sink.OutlastsLight fun w : s.Writer τ σ => P (s.base w) := by
  induction s with
  | bottom => exact hP
  | status below ih => exact StatusLayer.outlastsLight ih
  | commit below ih => exact CommitLayer.outlastsLight ih
  | pass below ih => exact PassLayer.outlastsLight ih
  | gzip below ih => exact GzipLayer.outlastsLight ih

/-- A flush of layers that do not compress asks nothing but a flush of the bottom. -/
theorem flush_plain (hflush : ∀ {t}, P t → P (Sink.flush t).2) (s : Stack) (hs : s.gzips = 0)
    {w : s.Writer τ σ} (h : P (s.base w)) : P (s.base (Sink.flush w).2) := by
  induction s with
  | bottom => exact hflush h
  | status below ih => exact congrArg below.base (StatusLayer.flush_inner w).2 ▸ ih hs h
  | commit below ih => exact congrArg below.base (CommitLayer.flush_inner w).2 ▸ ih hs h
  | pass below ih =>
    cases hflag : PassLayer.closed w with
    | true => exact congrArg (fun r => P (below.base r.2.inner)) (PassLayer.flush_closed hflag) ▸ h
    | false => exact congrArg below.base (PassLayer.flush_open hflag).2 ▸ ih hs h
  | gzip below ih => exact absurd hs (Nat.succ_ne_zero _)

end Stack

/-- **Untouched**: no final status and no byte of a body has reached the sink. -/
def Traced.Untouched {σ : Type} (t : Traced σ) : Prop :=
  (∀ code ∈ t.statuses, Status.final code = false) ∧ t.body = []

namespace Traced

variable {σ : Type}

/-- What one more arrival adds to the statuses. -/
theorem statuses_note (t : Traced σ) (a : Arrival) (s : σ) :
    (t.note a s).statuses = t.statuses ++ match a with | .status code => [code] | _ => [] := by
  cases a <;> simp [statuses, note]

/-- A sink is untouched by what is neither a final status nor a byte. -/
theorem Untouched.note {t : Traced σ} (h : t.Untouched) (a : Arrival) (s : σ)
    (hstatus : ∀ code, a = .status code → Status.final code = false)
    (hbytes : ∀ accepted, a = .bytes accepted → accepted = []) : (t.note a s).Untouched := by
  rw [Untouched, statuses_note, body_note, h.2]
  cases a with
  | status code => exact ⟨List.forall_mem_append.mpr ⟨h.1, by simpa using hstatus code rfl⟩, rfl⟩
  | bytes accepted => exact ⟨by simpa using h.1, hbytes accepted rfl⟩
  | flush => exact ⟨by simpa using h.1, rfl⟩
  | hijack => exact ⟨by simpa using h.1, rfl⟩

variable [Sink σ]

theorem untouched_outlastsLight : Sink.OutlastsLight (Untouched : Traced σ → Prop) where
  setHeaders := fun h _ => h
  sendInterim := fun h code hcode =>
    h.note (.status code) _ (fun _ heq => Arrival.status.inj heq ▸ hcode) (fun _ heq => nomatch heq)
  hijack := fun h _ => h.note .hijack _ (fun _ heq => nomatch heq) (fun _ heq => nomatch heq)

theorem Untouched.flush {t : Traced σ} (h : t.Untouched) : (Sink.flush t).2.Untouched :=
  h.note .flush _ (fun _ heq => nomatch heq) (fun _ heq => nomatch heq)

end Traced

/-! ### The flag -/

namespace CommitLayer

variable {ω : Type} [Sink ω]

/-- Once the flag is set it stays. -/
theorem written_outlasts : Sink.Outlasts .all fun l : CommitLayer ω => l.written = true where
  setHeaders := fun h _ _ => h
  sendStatus := fun h code => by
    show (_ || _) = true
    rw [h, Bool.true_or]
  write := fun _ _ => rfl
  flush := by
    intro _ l h
    show l.flush.2.written = true
    unfold CommitLayer.flush
    split
    · rfl
    · exact h
  hijack := by
    intro _ l h answer
    show (l.hijack answer).2.written = true
    unfold CommitLayer.hijack
    split
    · rfl
    · exact h

/-- A flush that leaves the flag unset has failed. -/
theorem flush_unwritten {l : CommitLayer ω} (h : (Sink.flush l).2.written = false) :
    ∃ fault, (Sink.flush l).1 = .error fault := by
  show ∃ fault, l.flush.1 = .error fault
  change l.flush.2.written = false at h
  unfold CommitLayer.flush at h ⊢
  split at h
  · exact absurd h.symm Bool.false_ne_true
  · rename_i fault inner heq
    exact ⟨fault, rfl⟩

/-- A write of something sets the flag, whatever comes of it. -/
theorem writeAll_written (l : CommitLayer ω) {data : Bytes} (hdata : data ≠ []) :
    (Sink.writeAll l data).2.written = true := by
  have hset {attempt : Attempt} {l' : CommitLayer ω} (h : Sink.write l data = (attempt, l')) :
      l'.written = true := congrArg (fun r => r.2.written) h.symm
  rw [Sink.writeAll, if_neg (by simpa using hdata)]
  split
  · exact hset ‹_›
  · exact written_outlasts.writes.writeAll (hset ‹_›) _
  · exact written_outlasts.writes.writeAll (hset ‹_›) _
  · exact hset ‹_›

theorem errorReply_written (l : CommitLayer ω) (code : Status) (message : String) :
    (Sink.errorReply l code message).written = true :=
  writeAll_written _ (List.append_ne_nil_of_right_ne_nil _ (List.cons_ne_nil _ _))

theorem performAll_written {l : CommitLayer ω} (h : l.written = true) (calls : List Call) :
    (Call.performAll calls l).2.written = true := by
  induction calls generalizing l with
  | nil => exact h
  | cons call calls ih => exact ih (written_outlasts.call h call)

variable {P : ω → Prop}

/-- **A call that leaves the flag unset** is made of light requests, or is a flush that fails. -/
theorem perform_unwritten (hP : Sink.OutlastsLight P) {l : CommitLayer ω} (h : P l.inner)
    (call : Call) (hunwritten : (call.perform l).2.written = false) :
    P (call.perform l).2.inner ∨
      call = .flush ∧ ∃ fault, (Sink.flush l).1 = .error fault := by
  have hlight := CommitLayer.outlastsLight hP
  -- a call that leaves the flag unset is not one of those that set it
  have hset {l' : CommitLayer ω} (hwritten : l'.written = true) (hnot : l'.written = false) :
      False := Bool.false_ne_true (hnot.symm.trans hwritten)
  have hheader (hcall : call.isHeader = true) : P (call.perform l).2.inner := by
    rcases Call.perform_isHeader hcall l with hsame | ⟨headers, hset⟩
    · rwa [hsame]
    · rw [hset]
      exact hlight.setHeaders h headers
  cases call with
  | status code =>
    left
    simp only [Call.perform] at hunwritten ⊢
    split_ifs at hunwritten ⊢
    · exact hlight.sendInterim h (Bool.or_eq_false_iff.mp hunwritten).2
    · exact h
  | write data => exact absurd hunwritten.symm Bool.false_ne_true
  | writeAll data =>
    by_cases hdata : data = []
    · -- nothing is offered, and the sink is not asked
      left
      simp only [Call.perform, hdata, Sink.writeAll_nil]
      exact h
    · exact (hset (writeAll_written l hdata) hunwritten).elim
  | flush => exact .inr ⟨rfl, flush_unwritten hunwritten⟩
  | hijack answer => exact .inl (hlight.hijack h answer)
  | errorReply code message =>
    simp only [Call.perform] at hunwritten ⊢
    split_ifs at hunwritten ⊢
    · exact (hset (errorReply_written l code message) hunwritten).elim
    · exact .inl h
  | _ => exact .inl (hheader rfl)

/-- **While the flag is unset**, the sink below has a property that light requests do not end,
unless a flush that failed has ended it. -/
theorem performAll_unwritten (hP : Sink.OutlastsLight P) {l : CommitLayer ω} (h : P l.inner)
    (calls : List Call) (hunwritten : (Call.performAll calls l).2.written = false) :
    P (Call.performAll calls l).2.inner ∨
      ∃ earlier later fault, calls = earlier ++ .flush :: later ∧
        P (Call.performAll earlier l).2.inner ∧
        (Sink.flush (Call.performAll earlier l).2).1 = .error fault ∧
        ¬ P (Sink.flush (Call.performAll earlier l).2).2.inner := by
  induction calls generalizing l with
  | nil => exact .inl h
  | cons call calls ih =>
    by_cases hnext : P (call.perform l).2.inner
    · rcases ih hnext hunwritten with hkept | ⟨earlier, later, fault, rfl, hlost⟩
      · exact .inl hkept
      · exact .inr ⟨call :: earlier, later, fault, rfl, hlost⟩
    · -- the flag is still unset after the call, so the call is the flush
      have hstill : (call.perform l).2.written = false := by
        by_contra hset
        have hlater := performAll_written ((Bool.not_eq_false _).mp hset) calls
        exact Bool.false_ne_true (hunwritten.symm.trans hlater)
      obtain ⟨rfl, fault, hfault⟩ :=
        (perform_unwritten hP h call hstill).resolve_left hnext
      exact .inr ⟨[], calls, fault, rfl, h, hfault, hnext⟩

variable {τ σ : Type} [MemberStream τ] [Sink σ]

/-- **What the flag says.** Take any layers around any sink, and any calls through a commit layer
around those. While its flag is unset the sink is untouched, unless one of the layers compresses
and a flush has failed that touched the sink on its way down. -/
theorem untouched_of_unwritten (sink : σ) (kinds : List LayerKind) (calls : List Call) :
    let below : Tower τ (Traced σ) := .ofLayers { sink } kinds
    let asked (calls : List Call) : CommitLayer (below.shape.Writer τ (Traced σ)) :=
      (Call.performAll calls { inner := below.writer }).2
    let reached (l : CommitLayer (below.shape.Writer τ (Traced σ))) : Traced σ :=
      below.shape.base l.inner
    (asked calls).written = false →
      (reached (asked calls)).Untouched ∨
      (∃ kind ∈ kinds, kind.isGzip = true) ∧
      ∃ earlier later fault, calls = earlier ++ .flush :: later ∧
        (reached (asked earlier)).Untouched ∧
        (Sink.flush (asked earlier)).1 = .error fault ∧
        ¬ (reached (Sink.flush (asked earlier)).2).Untouched := by
  intro below asked reached hunwritten
  have hlight := below.shape.outlastsLight (τ := τ) (Traced.untouched_outlastsLight (σ := σ))
  have hstart : (below.shape.base below.writer).Untouched := by
    rw [show below.shape.base below.writer = { sink } from Tower.base_ofLayers _ kinds]
    exact ⟨List.forall_mem_nil _, rfl⟩
  rcases performAll_unwritten hlight (l := { inner := below.writer }) hstart calls hunwritten with
    hkept | ⟨earlier, later, fault, hcalls, hbefore, hfault, hafter⟩
  · exact .inl hkept
  · refine .inr ⟨?_, earlier, later, fault, hcalls, hbefore, hfault, hafter⟩
    -- without a compression layer the flush would have been a light request
    by_contra hnone
    have hplain : below.shape.gzips = 0 := by
      rw [show below.shape.gzips = _ from Tower.gzips_ofLayers _ kinds, List.countP_eq_zero]
      exact fun kind hkind hgzip => hnone ⟨kind, hkind, hgzip⟩
    apply hafter
    rw [(flush_inner _).2]
    exact below.shape.flush_plain (fun h => h.flush) hplain hbefore

/-- An interim status, and a flush and a take-over that are refused, through layers that do not
compress. -/
theorem untouched_of_unwritten_plain :
    let below : Tower Stored (Traced ScriptedSink) :=
      .ofLayers { sink := {} } [.status, .pass false]
    let after : CommitLayer (below.shape.Writer Stored (Traced ScriptedSink)) :=
      (Call.performAll [.status 103, .flush, .hijack []] { inner := below.writer }).2
    after.written = false ∧ (below.shape.base after.inner).Untouched := by
  intro below after
  have hunwritten : after.written = false := by decide
  have hflag := untouched_of_unwritten (τ := Stored) ({} : ScriptedSink) [.status, .pass false]
    [.status 103, .flush, .hijack []] hunwritten
  exact ⟨hunwritten, hflag.resolve_right fun hlost => absurd hlost.1 (by decide)⟩

/-- A flush of a sink that cannot be flushed, through a compression layer: the flag is unset, and
the status has been sent. -/
theorem unwritten_after_lost_flush :
    let below : Tower Stored (Traced ScriptedSink) := .ofLayers { sink := {} } [.gzip 256 6]
    let after : CommitLayer (below.shape.Writer Stored (Traced ScriptedSink)) :=
      (Call.performAll [.flush] { inner := below.writer }).2
    after.written = false ∧ (below.shape.base after.inner).statuses = [200] ∧
      ¬ (below.shape.base after.inner).Untouched := by
  intro below after
  have hstatuses : (below.shape.base after.inner).statuses = [200] := by decide
  refine ⟨by decide, hstatuses, fun huntouched => ?_⟩
  have hinterim := huntouched.1 200 (by rw [hstatuses]; exact List.mem_singleton_self 200)
  exact absurd hinterim (by decide)

end CommitLayer

end HttpPipeline
