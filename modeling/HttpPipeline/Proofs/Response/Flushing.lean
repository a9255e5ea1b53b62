import HttpPipeline.Response.Tower
import HttpPipeline.Proofs.Response.Layers
import HttpPipeline.Proofs.Response.Reliable
import HttpPipeline.Proofs.Response.Requests

/-!
# Flushing through layers

A flush of a tower reaches its bottom once, unless some layer is closed, and then it does not
reach it at all. In between each layer adds what it owes: a compression layer decides, flushes its
stream into the sink below, and passes the flush on. All that it asks of the sink below before
that are header edits, statuses and writes, so the walk of a flush is cut in two: requests that
push nothing out (`Requests.quiet`), and then the one flush.

What can be read from the bottom at the moment of its flush comes from the ledgers of the layers
(`Stack.Relates`). Without a compression layer the bottom has what was written to the top. Below
such a layer it has either that or the start of a member from which just that can be read, because
the stream was flushed before.
-/

namespace HttpPipeline

/-! ### Requests that do not flush -/

/-- Compressing flushes nothing. -/
theorem GzipLayer.mayCompress_quiet : MayCompress .quiet := fun _ _ => trivial

namespace Sink

variable {ω : Type} [Sink ω]

/-- **Reached without a flush**, by header edits, statuses and writes. -/
abbrev Unflushed (first w : ω) : Prop := Reached .quiet first w

/-- **A ledger and a property** that a flush does not end in the states that the ledger allows. -/
theorem Keeps.and {R : Ledger → ω → Prop} {P : ω → Prop} (hR : Keeps R)
    (hP : Outlasts .quiet P) (hflush : ∀ {k w}, R k w → P w → P (Sink.flush w).2) :
    Keeps fun k w => R k w ∧ P w where
  setHeaders := fun h headers => ⟨hR.setHeaders h.1 headers, hP.setHeaders h.2 trivial⟩
  sendFinal := fun h _ hcode => ⟨hR.sendFinal h.1 hcode, hP.sendStatus h.2 _⟩
  -- an interim status is either dropped or noted, and both keep what is known beside it
  sendInterim := fun h code hcode =>
    (hR.sendInterim h.1 hcode).imp (⟨·, hP.sendStatus h.2 code⟩) (⟨·, hP.sendStatus h.2 code⟩)
  write := by
    intro k w h data
    have htaken := hR.write h.1 data
    have hw := hP.write h.2 data
    rcases heq : Sink.write w data with ⟨attempt, w'⟩
    rw [heq] at htaken hw
    cases attempt with
    | accepted count => exact ⟨htaken.1, htaken.2.1, htaken.2.2, hw⟩
    | interrupted message => exact htaken.imp (⟨·, hw⟩) (⟨·, hw⟩)
    | failed cause => exact htaken
  flush := by
    intro k w h
    have hflushed := hR.flush h.1
    have hw := hflush h.1 h.2
    rcases heq : Sink.flush w with ⟨result, w'⟩
    rw [heq] at hflushed hw
    cases result with
    | ok => exact ⟨hflushed, hw⟩
    | error fault => exact hflushed.imp (⟨·, hw⟩) (⟨·, hw⟩)

end Sink

/-- What reaches the record of a sink without a flush reaches the sink without one. -/
theorem Traced.outlasts {σ : Type} [Sink σ] {kinds : Requests} {P : σ → Prop}
    (hP : Sink.Outlasts kinds P) : Sink.Outlasts kinds fun t : Traced σ => P t.sink :=
  ⟨fun h => hP.setHeaders h, fun h => hP.sendStatus h, fun h => hP.write h,
    fun hflush _ h => hP.flush hflush h, fun hhijack _ h => hP.hijack hhijack h⟩

theorem Traced.unflushed {σ : Type} [Sink σ] {first t : Traced σ}
    (h : Sink.Unflushed first t) : Sink.Unflushed first.sink t.sink :=
  (Traced.outlasts (Sink.outlasts_reached .quiet first.sink)).reached .refl h

/-! ### Parts that no request changes -/

section Fixed

variable {ω α : Type} [Sink ω] {part : ω → α}

theorem StatusLayer.fixed (hpart : Sink.Fixed part) :
    Sink.Fixed fun l : StatusLayer ω => part l.inner :=
  .of_outlasts fun a => StatusLayer.outlasts (hpart.outlasts .all a)

theorem CommitLayer.fixed (hpart : Sink.Fixed part) :
    Sink.Fixed fun l : CommitLayer ω => part l.inner :=
  .of_outlasts fun a => CommitLayer.outlasts (hpart.outlasts .all a)

theorem PassLayer.fixed (hpart : Sink.Fixed part) :
    Sink.Fixed fun l : PassLayer ω => part l.inner :=
  .of_outlasts fun a => PassLayer.outlasts (hpart.outlasts .all a)

theorem GzipLayer.fixed {τ : Type} [MemberStream τ] (hpart : Sink.Fixed part) :
    Sink.Fixed fun l : GzipLayer τ ω => part l.inner :=
  .of_outlasts fun a => GzipLayer.outlasts (fun _ _ => trivial) (hpart.outlasts .all a)

end Fixed

/-! ### A flush of one layer -/

section Layers

variable {ω : Type} [Sink ω]

theorem StatusLayer.flush_inner (l : StatusLayer ω) :
    (Sink.flush l).1 = (Sink.flush l.inner).1 ∧
      (Sink.flush l).2.inner = (Sink.flush l.inner).2 := by
  show l.flush.1 = _ ∧ l.flush.2.inner = _
  unfold StatusLayer.flush
  split <;> rename_i heq <;> rw [heq] <;> exact ⟨rfl, rfl⟩

theorem CommitLayer.flush_inner (l : CommitLayer ω) :
    (Sink.flush l).1 = (Sink.flush l.inner).1 ∧
      (Sink.flush l).2.inner = (Sink.flush l.inner).2 := by
  show l.flush.1 = _ ∧ l.flush.2.inner = _
  unfold CommitLayer.flush
  split <;> rename_i heq <;> rw [heq] <;> exact ⟨rfl, rfl⟩

namespace PassLayer

theorem flush_open {l : PassLayer ω} (h : l.closed = false) :
    (Sink.flush l).1 = (Sink.flush l.inner).1 ∧
      (Sink.flush l).2.inner = (Sink.flush l.inner).2 := by
  show l.flush.1 = _ ∧ l.flush.2.inner = _
  rw [PassLayer.flush, h, if_neg Bool.false_ne_true]
  exact ⟨rfl, rfl⟩

theorem flush_closed {l : PassLayer ω} (h : l.closed = true) :
    Sink.flush l = (.error .flushNotSupported, l) :=
  if_pos h

/-- **The ledger of a layer without a memory** is that of the sink below. -/
def Relates (R : Ledger → ω → Prop) (k : Ledger) (l : PassLayer ω) : Prop := R k l.inner

variable {R : Ledger → ω → Prop}

/-- **A pass layer keeps the ledger** that the sink below keeps, open or closed. -/
theorem keeps (hR : Sink.Keeps R) : Sink.Keeps (Relates R) where
  setHeaders := fun h headers => hR.setHeaders h headers
  sendFinal := fun h _ hcode => hR.sendFinal h hcode
  sendInterim := fun h _ hcode => hR.sendInterim h hcode
  write := by
    intro k l h data
    have htaken := hR.write h data
    show Sink.Taken (Relates R) k data
      ((Sink.write l.inner data).1, { l with inner := (Sink.write l.inner data).2 })
    rcases heq : Sink.write l.inner data with ⟨attempt, inner⟩
    rw [heq] at htaken
    cases attempt <;> exact htaken
  flush := by
    intro k l h
    cases hclosed : l.closed with
    -- a closed layer refuses by itself, and nothing arrives below
    | true =>
      rw [flush_closed hclosed]
      exact .inl h
    | false =>
      have hflushed := hR.flush h
      show Sink.Flushed (Relates R) k l.flush
      rw [PassLayer.flush, hclosed, if_neg Bool.false_ne_true]
      rcases heq : Sink.flush l.inner with ⟨result, inner⟩
      rw [heq] at hflushed
      cases result <;> exact hflushed

theorem prompt (hR : Sink.Prompt R) : Sink.Prompt (Relates R) := fun _ h _ hcode => hR h hcode

/-- A layer stays open or closed. -/
theorem fixed_closed : Sink.Fixed (PassLayer.closed : PassLayer ω → Bool) where
  setHeaders _ _ := rfl
  sendStatus _ _ := rfl
  write _ _ := rfl
  flush l := by
    show l.flush.2.closed = l.closed
    unfold PassLayer.flush
    split_ifs <;> rfl
  hijack l answer := by
    show (l.hijack answer).2.closed = l.closed
    unfold PassLayer.hijack
    split_ifs <;> rfl

end PassLayer

namespace GzipLayer

variable {ε : Type} [Deflater ε] {R : Ledger → ω → Prop} {k : Ledger}
    {l : GzipLayer (GzipStream ε) ω}

/-- **A flush of a compression layer** is one flush of the sink below, after requests that do not
flush. That sink has then what was written, as it is or as the start of a member. -/
theorem Relates.flush_readable (hε : Deflater.SyncDecodable ε) (hR : Sink.Keeps R)
    (hP : Sink.Prompt R) (h : Relates R k l) {P : ω → Prop} (hquiet : Sink.Outlasts .quiet P)
    (hstart : P l.inner) :
    ∃ (w : ω) (j : Ledger), R j w ∧ P w ∧
      (j.written = k.written ∨ Member.Unfinished j.written k.written) ∧
      l.flush.1 = (Sink.flush w).1 ∧ l.flush.2.inner = (Sink.flush w).2 := by
  have hcommitted := (h.commit hR hP).1
  have hbelow := outlasts_commit mayCompress_quiet hquiet hstart
  simp only [GzipLayer.flush, h.hijacked, Bool.false_eq_true, if_false, hcommitted.commitFailure]
  rcases hcommitted.phase with hp | hs | hc
  · exact absurd hp.decision (h.commit hR hP).2
  · obtain ⟨j, hj, hk⟩ := hs.inner
    have hwritten : k.settle.written = j.settle.written := congrArg Ledger.written hk
    simp only [hs.decision]
    exact ⟨l.commit.inner, j, hj, hbelow, .inl hwritten.symm, rfl, rfl⟩
  · -- the stream is flushed into the sink before the sink itself
    obtain ⟨head, out, hstream, hj⟩ := hc.inner
    obtain ⟨stream, more, -, hreadable, hstep⟩ := hstream.flush_readable
    obtain ⟨w, hwrite, hw⟩ := hR.writeAll_settled hj hc.status more
    have hquietly := hquiet.writes.writeAll hbelow more
    rw [hwrite] at hquietly
    simp only [hc.decision, hstep, hwrite]
    exact ⟨w, _, hw, hquietly, .inr (hreadable hε), rfl, rfl⟩

end GzipLayer

end Layers

/-! ### A flush of a tower -/

namespace Stack

variable {τ ε σ : Type}

/-- How many layers compress. -/
def gzips : Stack → Nat
  | bottom => 0
  | status below => gzips below
  | commit below => gzips below
  | pass below => gzips below
  | gzip below => gzips below + 1

/-- Whether some layer is closed. -/
def closed : (s : Stack) → s.Writer τ σ → Bool
  | bottom, _ => false
  | status below, w => closed below (StatusLayer.inner w)
  | commit below, w => closed below (CommitLayer.inner w)
  | pass below, w => PassLayer.closed w || closed below (PassLayer.inner w)
  | gzip below, w => closed below (GzipLayer.inner w)

/-- **No request** to a tower opens or closes a layer. -/
theorem fixed_closed [MemberStream τ] [Sink σ] (s : Stack) :
    Sink.Fixed (closed s : s.Writer τ σ → Bool) := by
  induction s with
  | bottom => exact ⟨fun _ _ => rfl, fun _ _ => rfl, fun _ _ => rfl, fun _ => rfl, fun _ _ => rfl⟩
  | status below ih => exact StatusLayer.fixed ih
  | commit below ih => exact CommitLayer.fixed ih
  | pass below ih =>
    have hflag := PassLayer.fixed_closed (ω := below.Writer τ σ)
    have hbelow := PassLayer.fixed ih
    exact ⟨fun w headers => congrArg₂ or (hflag.setHeaders w headers) (hbelow.setHeaders w headers),
      fun w code => congrArg₂ or (hflag.sendStatus w code) (hbelow.sendStatus w code),
      fun w data => congrArg₂ or (hflag.write w data) (hbelow.write w data),
      fun w => congrArg₂ or (hflag.flush w) (hbelow.flush w),
      fun w answer => congrArg₂ or (hflag.hijack w answer) (hbelow.hijack w answer)⟩
  | gzip below ih => exact GzipLayer.fixed ih

variable [Deflater ε]

/-- **The ledger of a tower**, over the ledger of its bottom. -/
def Relates (R : Ledger → σ → Prop) : (s : Stack) → Ledger → s.Writer (GzipStream ε) σ → Prop
  | bottom => R
  | status below => StatusLayer.Relates (Relates R below)
  | commit below => CommitLayer.Relates (Relates R below)
  | pass below => PassLayer.Relates (Relates R below)
  | gzip below => GzipLayer.Relates (Relates R below)

variable [Sink σ]

/-- What is asked of a tower without a flush reaches its bottom without one, and opens or closes
no layer. -/
theorem quiet_below (s : Stack) (first : s.Writer (GzipStream ε) σ) (flag : Bool) :
    Sink.Outlasts .quiet fun w : s.Writer (GzipStream ε) σ =>
      Sink.Unflushed (s.base first) (s.base w) ∧ s.closed w = flag :=
  (s.outlasts GzipLayer.mayCompress_quiet (Sink.outlasts_reached .quiet (s.base first))).and
    (s.fixed_closed.outlasts .quiet flag)

variable {R : Ledger → σ → Prop}

/-- **A tower keeps its ledger**, if at most one of its layers compresses: such a layer holds the
status back, so that another one further out could not tell when the head was sent. -/
theorem keeps (hR : Sink.Keeps R) (hP : Sink.Prompt R) (s : Stack) (hs : s.gzips ≤ 1) :
    Sink.Keeps (Relates R s : Ledger → s.Writer (GzipStream ε) σ → Prop) ∧
      (s.gzips = 0 → Sink.Prompt (Relates R s : Ledger → s.Writer (GzipStream ε) σ → Prop)) := by
  induction s with
  | bottom => exact ⟨hR, fun _ => hP⟩
  | status below ih =>
    obtain ⟨hkeeps, hprompt⟩ := ih hs
    exact ⟨StatusLayer.keeps hkeeps, fun hnone => StatusLayer.prompt (hprompt hnone)⟩
  | commit below ih =>
    obtain ⟨hkeeps, hprompt⟩ := ih hs
    exact ⟨CommitLayer.keeps hkeeps, fun hnone => CommitLayer.prompt (hprompt hnone)⟩
  | pass below ih =>
    obtain ⟨hkeeps, hprompt⟩ := ih hs
    exact ⟨PassLayer.keeps hkeeps, fun hnone => PassLayer.prompt (hprompt hnone)⟩
  | gzip below ih =>
    have hnone : below.gzips = 0 := Nat.le_zero.mp (Nat.le_of_succ_le_succ hs)
    obtain ⟨hkeeps, hprompt⟩ := ih (by rw [hnone]; exact Nat.zero_le 1)
    exact ⟨GzipLayer.keeps hkeeps (hprompt hnone), fun hzero => absurd hzero (Nat.succ_ne_zero _)⟩

/-- **A flush of an open tower** is one flush of its bottom, after requests that do not flush. The
bottom has then what was written, as it is or, below a compression layer, as the start of a
member. -/
theorem flush_open (hε : Deflater.SyncDecodable ε) (hR : Sink.Keeps R) (hP : Sink.Prompt R)
    (s : Stack) (hs : s.gzips ≤ 1) {k : Ledger} {w : s.Writer (GzipStream ε) σ}
    (h : s.Relates R k w)
    (hopen : s.closed w = false) :
    ∃ (t : σ) (j : Ledger), Sink.Unflushed (s.base w) t ∧ R j t ∧
      (j.written = k.written ∨ s.gzips ≠ 0 ∧ Member.Unfinished j.written k.written) ∧
      (Sink.flush w).1 = (Sink.flush t).1 ∧ s.base (Sink.flush w).2 = (Sink.flush t).2 := by
  -- on the tower: a layer that compresses nothing hands the flush on as it is
  induction s generalizing k with
  | bottom => exact ⟨w, k, .refl, h, .inl rfl, rfl, rfl⟩
  | status below ih =>
    obtain ⟨code, hbelow, -⟩ := h
    obtain ⟨t, j, ht, hj, hread, hresult, hbase⟩ := ih hs hbelow hopen
    obtain ⟨hfirst, hinner⟩ := StatusLayer.flush_inner w
    exact ⟨t, j, ht, hj, hread, hfirst.trans hresult, (congrArg below.base hinner).trans hbase⟩
  | commit below ih =>
    obtain ⟨t, j, ht, hj, hread, hresult, hbase⟩ := ih hs h hopen
    obtain ⟨hfirst, hinner⟩ := CommitLayer.flush_inner w
    exact ⟨t, j, ht, hj, hread, hfirst.trans hresult, (congrArg below.base hinner).trans hbase⟩
  | pass below ih =>
    obtain ⟨hflag, hopen'⟩ := Bool.or_eq_false_iff.mp hopen
    obtain ⟨t, j, ht, hj, hread, hresult, hbase⟩ := ih hs h hopen'
    obtain ⟨hfirst, hinner⟩ := PassLayer.flush_open hflag
    exact ⟨t, j, ht, hj, hread, hfirst.trans hresult, (congrArg below.base hinner).trans hbase⟩
  | gzip below ih =>
    have hnone : below.gzips = 0 := Nat.le_zero.mp (Nat.le_of_succ_le_succ hs)
    have hle : below.gzips ≤ 1 := by
      rw [hnone]
      exact Nat.zero_le 1
    obtain ⟨hkeeps, hprompt⟩ := keeps (ε := ε) hR hP below hle
    -- the compressing layer brings its stream to a point from which all can be read, then hands it
    -- on
    obtain ⟨v, i, hi, ⟨hv, hopen'⟩, hread, hresult, hinner⟩ :=
      GzipLayer.Relates.flush_readable hε hkeeps (hprompt hnone) h
        (below.quiet_below (GzipLayer.inner w) false) ⟨.refl, hopen⟩
    obtain ⟨t, j, ht, hj, hplain, hresult', hbase⟩ := ih hle hi hopen'
    have hsame : j.written = i.written := hplain.resolve_right fun hmember => hmember.1 hnone
    refine ⟨t, j, hv.trans ht, hj, ?_, hresult.trans hresult',
      (congrArg below.base hinner).trans hbase⟩
    rw [hsame]
    exact hread.imp_right fun hmember => ⟨Nat.succ_ne_zero _, hmember⟩

/-- **A flush of a closed tower** is refused, and the bottom is not flushed. -/
theorem flush_closed (hε : Deflater.SyncDecodable ε) (hR : Sink.Keeps R) (hP : Sink.Prompt R)
    (s : Stack) (hs : s.gzips ≤ 1) {k : Ledger} {w : s.Writer (GzipStream ε) σ}
    (h : s.Relates R k w)
    (hclosed : s.closed w = true) :
    (Sink.flush w).1 = .error .flushNotSupported ∧
      Sink.Unflushed (s.base w) (s.base (Sink.flush w).2) := by
  -- on the tower, from the top layer down to the one that is closed
  induction s generalizing k with
  | bottom => exact absurd hclosed Bool.false_ne_true
  | status below ih =>
    obtain ⟨code, hbelow, -⟩ := h
    obtain ⟨hresult, hbase⟩ := ih hs hbelow hclosed
    obtain ⟨hfirst, hinner⟩ := StatusLayer.flush_inner w
    exact ⟨hfirst.trans hresult, (congrArg below.base hinner) ▸ hbase⟩
  | commit below ih =>
    obtain ⟨hresult, hbase⟩ := ih hs h hclosed
    obtain ⟨hfirst, hinner⟩ := CommitLayer.flush_inner w
    exact ⟨hfirst.trans hresult, (congrArg below.base hinner) ▸ hbase⟩
  | pass below ih =>
    cases hflag : PassLayer.closed w with
    | true =>
      have hflush : Sink.flush w = (.error .flushNotSupported, w) :=
        PassLayer.flush_closed hflag
      rw [hflush]
      exact ⟨rfl, .refl⟩
    | false =>
      have hclosed' : below.closed (PassLayer.inner w) = true := by
        simpa [closed, hflag] using hclosed
      obtain ⟨hresult, hbase⟩ := ih hs h hclosed'
      obtain ⟨hfirst, hinner⟩ := PassLayer.flush_open hflag
      exact ⟨hfirst.trans hresult, (congrArg below.base hinner) ▸ hbase⟩
  | gzip below ih =>
    -- the one compressing layer is this one, so below it the sink may be asked promptly
    have hnone : below.gzips = 0 := Nat.le_zero.mp (Nat.le_of_succ_le_succ hs)
    have hle : below.gzips ≤ 1 := by
      rw [hnone]
      exact Nat.zero_le 1
    obtain ⟨hkeeps, hprompt⟩ := keeps (ε := ε) hR hP below hle
    -- the layer decides and flushes its stream before it is refused
    obtain ⟨v, i, hi, ⟨hv, hclosed'⟩, -, hresult, hinner⟩ :=
      GzipLayer.Relates.flush_readable hε hkeeps (hprompt hnone) h
        (below.quiet_below (GzipLayer.inner w) true) ⟨.refl, hclosed⟩
    obtain ⟨hresult', hbase⟩ := ih hle hi hclosed'
    exact ⟨hresult.trans hresult', (congrArg below.base hinner) ▸ hv.trans hbase⟩

end Stack

/-! ### Towers that are built layer by layer -/

/-- Whether a layer compresses. -/
def LayerKind.isGzip : LayerKind → Bool
  | .gzip .. => true
  | _ => false

namespace Tower

section Streams

variable {τ σ : Type} [MemberStream τ]

theorem gzips_ofLayers (bottom : σ) (kinds : List LayerKind) :
    (ofLayers bottom kinds : Tower τ σ).shape.gzips = kinds.countP LayerKind.isGzip := by
  have hfold (t : Tower τ σ) :
      (kinds.foldl add t).shape.gzips = t.shape.gzips + kinds.countP LayerKind.isGzip := by
    induction kinds generalizing t with
    | nil => rfl
    | cons kind kinds ih =>
      rw [List.foldl_cons, ih, List.countP_cons]
      cases kind with
      | gzip minSize level => exact Nat.add_right_comm _ 1 _
      | _ => rfl
  exact (hfold _).trans (Nat.zero_add _)

theorem closed_ofLayers (bottom : σ) (kinds : List LayerKind) :
    let tower : Tower τ σ := ofLayers bottom kinds
    tower.shape.closed tower.writer = kinds.contains (.pass true) := by
  have hfold (t : Tower τ σ) : (kinds.foldl add t).shape.closed (kinds.foldl add t).writer
      = (t.shape.closed t.writer || kinds.contains (.pass true)) := by
    induction kinds generalizing t with
    | nil => exact (Bool.or_false _).symm
    | cons kind kinds ih =>
      have hadd : (t.add kind).shape.closed (t.add kind).writer
          = (t.shape.closed t.writer || (LayerKind.pass true == kind)) := by
        cases kind with
        | pass flag => cases flag <;> simp [add, Stack.closed]
        | _ => exact (Bool.or_false _).symm
      rw [List.foldl_cons, ih, hadd, List.contains_cons, Bool.or_assoc]
  exact (hfold _).trans (Bool.false_or _)

theorem base_ofLayers (bottom : σ) (kinds : List LayerKind) :
    let tower : Tower τ σ := ofLayers bottom kinds
    tower.shape.base tower.writer = bottom := by
  refine ofLayers_induction (motive := fun t : Tower τ σ => t.shape.base t.writer = bottom) rfl
    kinds (fun t kind _ ht => ?_)
  cases kind <;> exact ht

end Streams

variable {ε σ : Type} [Deflater ε]

/-- **A tower of layers** around a bottom of which nothing has been asked. -/
theorem relates_ofLayers {R : Ledger → σ → Prop} {bottom : σ} (h : R {} bottom)
    (kinds : List LayerKind) :
    let tower : Tower (GzipStream ε) σ := ofLayers bottom kinds
    tower.shape.Relates R {} tower.writer := by
  refine ofLayers_induction
    (motive := fun t : Tower (GzipStream ε) σ => t.shape.Relates R {} t.writer) h
    kinds (fun t kind _ ht => ?_)
  cases kind with
  | status => exact StatusLayer.relates_around ht
  | commit => exact ht
  | pass flag => exact ht
  | gzip minSize level => exact GzipLayer.relates_around ht _ minSize

variable [Sink σ] {P : σ → Prop}

/-- **A flush that does not reach the sink**, because a layer is closed or the sink cannot be
flushed. -/
theorem flush_refused (hε : Deflater.SyncDecodable ε) (hP : Sink.Reliable P) {s : Stack}
    (hs : s.gzips ≤ 1) {k : Ledger} {w : s.Writer (GzipStream ε) (Traced σ)}
    (h : s.Relates (Traced.Account P) k w)
    (hrefuses : s.closed w = true ∨ ∀ s, P s → Sink.flush s = (.error .flushNotSupported, s)) :
    (Sink.flush w).1 = .error .flushNotSupported ∧
      Sink.Unflushed (s.base w).sink (s.base (Sink.flush w).2).sink := by
  have hkeeps := Traced.keeps hP
  have hprompt := Traced.prompt hP
  cases hclosed : s.closed w with
  | true =>
    obtain ⟨hresult, hbase⟩ := s.flush_closed hε hkeeps hprompt hs h hclosed
    exact ⟨hresult, Traced.unflushed hbase⟩
  | false =>
    obtain ⟨t, j, ht, hj, -, hresult, hbase⟩ := s.flush_open hε hkeeps hprompt hs h hclosed
    have hunsupported := hrefuses.resolve_left (by simp [hclosed]) t.sink hj.2
    -- what is refused by the sink leaves it as it is
    have hflush : (Sink.flush t).1 = .error .flushNotSupported ∧ (Sink.flush t).2.sink = t.sink :=
      ⟨congrArg Prod.fst hunsupported, congrArg Prod.snd hunsupported⟩
    refine ⟨hresult.trans hflush.1, ?_⟩
    rw [hbase, hflush.2]
    exact Traced.unflushed ht

/-- **A flush of a tower**, after any header edits, statuses, writes and flushes. Let the layers
be of any number and in any order, but at most one of them compress, over a sink whose writes do
not fail for good.

* If no layer is closed and the sink can be flushed, the flush succeeds. It flushes the sink once,
  and at that moment what was written to the tower can be read from what has reached the sink: as
  it is, or as the start of a member.
* If a layer is closed or the sink cannot be flushed, the flush is refused, and no request has
  flushed the sink. -/
theorem flush_delivers (hε : Deflater.SyncDecodable ε) (hP : Sink.Reliable P) {sink : σ}
    (hsink : P sink) (kinds : List LayerKind) (hkinds : kinds.countP LayerKind.isGzip ≤ 1)
    (calls : List Call) (hcalls : ∀ call ∈ calls, call.isPlain = true) :
    let tower : Tower (GzipStream ε) (Traced σ) := ofLayers { sink } kinds
    let base := tower.shape.base
    let asked := Call.performAll calls tower.writer
    let written := Call.allReported calls asked.1
    let flushed := Sink.flush asked.2
    (.pass true ∉ kinds → (∀ s, P s → (Sink.flush s).1 = .ok ()) →
      flushed.1 = .ok () ∧ ∃ t, Sink.Unflushed (base asked.2) t ∧
        base flushed.2 = (Sink.flush t).2 ∧
        (t.body = written ∨ Member.Unfinished t.body written)) ∧
    (.pass true ∈ kinds ∨ (∀ s, P s → Sink.flush s = (.error .flushNotSupported, s)) →
      flushed.1 = .error .flushNotSupported ∧ Sink.Unflushed sink (base flushed.2).sink) := by
  intro tower base asked written flushed
  have hkeeps := Traced.keeps hP
  have hprompt := Traced.prompt hP
  have hs : tower.shape.gzips ≤ 1 := by rwa [gzips_ofLayers]
  have hstart : tower.shape.Relates (Traced.Account P) {} tower.writer :=
    relates_ofLayers ⟨rfl, hsink⟩ kinds
  have htower := (tower.shape.keeps (ε := ε) hkeeps hprompt hs).1
  have hflags := tower.shape.fixed_closed (τ := GzipStream ε) (σ := Traced σ)
  constructor
  -- an open tower: all of it was written to the layers, and the flush brings it down to the sink
  · intro hopen hflush
    have hclosed : tower.shape.closed tower.writer = false := by
      rw [closed_ofLayers]
      simpa using hopen
    have hstill : tower.shape.closed asked.2 = false :=
      (hflags.invariant false).performAll hclosed calls hcalls
    obtain ⟨k, hk, hwritten⟩ := Call.performAll_reported htower calls hcalls hstart
    obtain ⟨t, j, ht, hj, hread, hresult, hbase⟩ :=
      tower.shape.flush_open hε hkeeps hprompt hs hk hstill
    refine ⟨hresult.trans (hflush t.sink hj.2), t, ht, hbase, ?_⟩
    have hall : k.written = written := hwritten
    rw [hj.1, ← hall]
    exact hread.imp_right And.right
  · intro hrefuses
    have hclosed : tower.shape.closed tower.writer = true ∨
        ∀ s, P s → Sink.flush s = (.error .flushNotSupported, s) := by
      rw [closed_ofLayers]
      simpa using hrefuses
    -- the flushes before are refused as well, so the sink is not flushed along the whole run
    have hquiet := (tower.shape.outlasts (τ := GzipStream ε) GzipLayer.mayCompress_quiet
      (Traced.outlasts (Sink.outlasts_reached .quiet sink))).and
      (hflags.outlasts .quiet (tower.shape.closed tower.writer))
    have hrun := htower.and hquiet fun hk hw =>
      ⟨hw.1.trans (flush_refused hε hP hs hk (by rwa [hw.2])).2, (hflags.flush _).trans hw.2⟩
    have hbottom : Sink.Unflushed sink (base tower.writer).sink := by
      rw [show base tower.writer = { sink } from base_ofLayers _ kinds]
      exact .refl
    obtain ⟨k, ⟨hk, hbase, hstill⟩, -⟩ :=
      Call.performAll_reported hrun calls hcalls ⟨hstart, hbottom, rfl⟩
    obtain ⟨hresult, hlast⟩ := flush_refused hε hP hs hk (by rwa [hstill])
    exact ⟨hresult, hbase.trans hlast⟩

/-- A flush in the middle of a compressed body, through layers of each kind, over a sink that takes
three bytes and then two; and a flush that a closed layer refuses. -/
theorem flush_delivers_layers :
    let sink : ScriptedSink := { writes := [.accept 3, .accept 2], onFlush := .succeed }
    let calls : List Call := [.status 201, .write [1, 2], .writeAll [3, 4, 5], .flush, .write [6]]
    let tower : Tower Stored (Traced ScriptedSink) :=
      ofLayers { sink } [.status, .gzip 4 6, .pass false, .commit]
    let asked := Call.performAll calls tower.writer
    let shut : Tower Stored (Traced ScriptedSink) := ofLayers { sink } [.pass true, .gzip 4 6]
    let refused := Sink.flush (Call.performAll calls shut.writer).2
    ((Sink.flush asked.2).1 = .ok () ∧
      ∃ t, Sink.Unflushed (tower.shape.base asked.2) t ∧
        tower.shape.base (Sink.flush asked.2).2 = (Sink.flush t).2 ∧
        (t.body = Call.allReported calls asked.1 ∨
          Member.Unfinished t.body (Call.allReported calls asked.1))) ∧
    refused.1 = .error .flushNotSupported ∧
      Sink.Unflushed sink (shut.shape.base refused.2).sink := by
  intro sink calls tower asked shut refused
  have hreliable := ScriptedSink.reliable .succeed
  have hsink : sink.onFlush = .succeed ∧ sink.Willing := ⟨rfl, by simp [ScriptedSink.Willing, sink]⟩
  constructor
  · refine (flush_delivers (Deflater.syncDecodable StoredBlocks) hreliable hsink _ (by decide) calls
      (by decide)).1 (by decide) ?_
    -- the sink below never fails and flushes when it is told
    rintro s ⟨hflush, -⟩
    show s.flush.1 = _
    rw [ScriptedSink.flush, hflush]
  · exact (flush_delivers (Deflater.syncDecodable StoredBlocks) hreliable hsink _ (by decide) calls
      (by decide)).2 (.inl (by decide))

end Tower

end HttpPipeline
