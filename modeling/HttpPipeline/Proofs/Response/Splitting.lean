import HttpPipeline.Proofs.Response.HeadSent
import HttpPipeline.Proofs.Response.Reliable

/-!
# How a body is split

A handler may write a body in one piece or in many. A compression layer decides as soon as it holds
enough, so what it decides on is the front of the body that has been written by then, and where this
front ends depends on the pieces. It is either the whole body or has `minSize` bytes
(`GzipLayer.Fallen`).

All that a decision takes from the front is whether it has `minSize` bytes and, for a body without a
declared type, the type that its first bytes look like. The first is the same for all fronts. So is
the second, if these bytes are among the first `minSize` (`GzipLayer.decide_front`). Then neither
the decision nor the head depends on how the body is split, and the body arrives whole in any case
(`GzipLayer.splits_alike`).
-/

namespace HttpPipeline

/-! ### The ledger below a record of heads -/

namespace HeadLog

variable {ω : Type} [Sink ω] {R : Ledger → ω → Prop}

theorem keeps (hR : Sink.Keeps R) : Sink.Keeps fun k (w : HeadLog ω) => R k w.sink where
  setHeaders := fun h headers => hR.setHeaders h headers
  sendFinal := fun h _ hcode => hR.sendFinal h hcode
  sendInterim := fun h _ hcode => hR.sendInterim h hcode
  write := by
    intro k w h data
    have htaken := hR.write h data
    show Sink.Taken _ k data (w.write data)
    unfold HeadLog.write
    rcases heq : Sink.write w.sink data with ⟨attempt, sink⟩
    rw [heq] at htaken
    cases attempt <;> exact htaken
  flush := by
    intro k w h
    have hflushed := hR.flush h
    show Sink.Flushed _ k w.flush
    unfold HeadLog.flush
    rcases heq : Sink.flush w.sink with ⟨result, sink⟩
    rw [heq] at hflushed
    cases result <;> exact hflushed

theorem prompt (hP : Sink.Prompt R) : Sink.Prompt fun k (w : HeadLog ω) => R k w.sink :=
  fun _ h _ hcode => hP h hcode

end HeadLog

/-- **A body in pieces** is taken whole. -/
theorem Sink.Keeps.chunks {ω : Type} [Sink ω] {R : Ledger → ω → Prop} (hR : Sink.Keeps R)
    (chunks : List Bytes) {k : Ledger} {w : ω} (h : R k w) :
    ∃ k', R k' (Call.performAll (chunks.map .writeAll) w).2 ∧
      k'.written = k.written ++ chunks.flatten := by
  induction chunks generalizing k w with
  | nil => exact ⟨k, h, (List.append_nil _).symm⟩
  | cons data chunks ih =>
    obtain ⟨w', hwrite, hnil, hadd⟩ := hR.writeAll h data
    have hstep : (Call.performAll ((data :: chunks).map .writeAll) w).2
        = (Call.performAll (chunks.map .writeAll) w').2 := by
      simp only [List.map_cons, Call.performAll, Call.perform, hwrite]
    rw [hstep, List.flatten_cons, ← List.append_assoc]
    by_cases hdata : data = []
    · rw [hnil hdata, hdata, List.append_nil]
      exact ih h
    · exact ih (hadd hdata)

namespace GzipLayer

variable {ε ω σ : Type} [Deflater ε] [Sink ω] [Sink σ]

/-! ### Fronts of a body -/

/-- A front of a body on which a decision may fall: all of it, or enough. -/
def IsFront (minSize : Nat) (front body : Bytes) : Prop :=
  front <+: body ∧ (front = body ∨ minSize ≤ front.length)

omit [Deflater ε] [Sink ω] [Sink σ] in
/-- A front is long enough if the body is. -/
theorem IsFront.length_iff {minSize : Nat} {front body : Bytes} (h : IsFront minSize front body) :
    minSize ≤ front.length ↔ minSize ≤ body.length := by
  obtain ⟨hstarts, rfl | hlong⟩ := h
  · exact Iff.rfl
  · exact ⟨fun _ => Nat.le_trans hlong hstarts.length_le, fun _ => hlong⟩

omit [Deflater ε] [Sink ω] [Sink σ] in
/-- A front looks like the body, if all bytes that are looked at are held back. -/
theorem IsFront.detect {minSize : Nat} {front body : Bytes} (h : IsFront minSize front body)
    (hsize : Sniff.window ≤ minSize) : Sniff.detect front = Sniff.detect body := by
  obtain ⟨⟨rest, rfl⟩, hwhole | hlong⟩ := h
  · rw [← hwhole]
  · rw [← Sniff.detect_take front, ← Sniff.detect_take (front ++ rest),
      List.take_append_of_le_length (Nat.le_trans hsize hlong)]

omit [Deflater ε] [Sink ω] [Sink σ] in
/-- **What is decided on a front** is what is decided on the whole body, and so is what is declared,
if the type of the body is declared or all bytes that are looked at are held back. -/
theorem decide_front {minSize : Nat} {front body : Bytes} (h : IsFront minSize front body)
    (headers : Headers) (code : Status)
    (htype : (declaredType? headers).isSome = true ∨ Sniff.window ≤ minSize) :
    decide headers code minSize front = decide headers code minSize body ∧
      compressedHeaders headers front = compressedHeaders headers body := by
  have hlength : front.length < minSize ↔ body.length < minSize := by
    have hiff := h.length_iff
    omega
  have hguess : (declaredType? headers).isSome = true ∨ Sniff.detect front = Sniff.detect body :=
    htype.imp_right h.detect
  unfold decide compressedHeaders
  rcases hguess with hdeclared | hsame
  · obtain ⟨type, htype⟩ := Option.isSome_iff_exists.mp hdeclared
    simp only [htype, hlength, Option.getD_some, Option.isSome_some, if_true, and_self]
  · simp only [hsame, hlength, and_self]

/-- The first four bytes of an image may look like text, so the hypothesis is needed. -/
example : let png : Bytes := [0x89, 0x50, 0x4e, 0x47, 0x0d, 0x0a, 0x1a, 0x0a]
    decide {} 200 4 png = .skip ∧ decide {} 200 4 (png.take 4) = .compress := by
  decide +kernel

/-! ### Up to the decision and after it -/

/-- **A layer that holds a body back**, of which it held nothing at `first`. -/
structure Poised (first : GzipLayer (GzipStream ε) ω) (body : Bytes)
    (l : GzipLayer (GzipStream ε) ω) : Prop where
  hijacked : l.hijacked = false
  commitFailure : l.commitFailure = none
  decision : l.decision = .pending
  held : ∀ data, l.held data = first.held (body ++ data)

/-- **The decision has fallen** on a front of the body, and the head went down that was due then. -/
def Fallen (first : GzipLayer (GzipStream ε) (HeadLog σ)) (body : Bytes)
    (l : GzipLayer (GzipStream ε) (HeadLog σ)) : Prop :=
  ∃ front, IsFront first.minSize front body ∧
    l.decision = (first.held front).due ∧ l.inner.heads = [(first.held front).nextHead]

variable {first l : GzipLayer (GzipStream ε) (HeadLog σ)} {body : Bytes}

omit [Deflater ε] [Sink σ] in
theorem held_held (l : GzipLayer (GzipStream ε) (HeadLog σ)) (data more : Bytes) :
    (l.held data).held more = l.held (data ++ more) := by
  simp only [GzipLayer.held, GzipLayer.sendStatus, List.append_assoc, Option.getD_some]

/-- A decision stands, and no head comes after the first. -/
theorem outlastsWrites_decided {made : Decision} (hmade : made ≠ .pending) (heads : List Head) :
    Sink.OutlastsWrites fun l : GzipLayer (GzipStream ε) (HeadLog σ) =>
      l.decision = made ∧ l.inner.heads = heads := by
  rintro l ⟨rfl, rfl⟩ data
  exact Operation.apply_decided hmade (.write data)

/-- **One more piece**, while everything is held back. The decision falls with it if it makes the
body long enough. -/
theorem Poised.writeAll (h : Poised first body l) (hblank : first.buffer = [])
    (hnone : first.inner.heads = []) (data : Bytes) :
    Poised first (body ++ data) (Sink.writeAll l data).2 ∨
      first.minSize ≤ (body ++ data).length ∧
        Fallen first (body ++ data) (Sink.writeAll l data).2 := by
  by_cases hdata : data = []
  · left
    rw [hdata, Sink.writeAll_nil, List.append_nil]
    exact h
  · have hheld := h.held data
    have hsize : l.minSize = first.minSize := by
      show (l.held data).minSize = _
      rw [hheld]
      rfl
    -- all that came so far stands in the buffer
    have hlength : l.buffer.length + data.length = (body ++ data).length := by
      have hbuffer : l.buffer ++ data = first.buffer ++ (body ++ data) :=
        congrArg GzipLayer.buffer hheld
      rw [← List.length_append, hbuffer, hblank, List.nil_append]
    rw [writeAll_pending h.hijacked h.commitFailure h.decision hdata,
      write_pending h.hijacked h.commitFailure h.decision, report_snd, hlength, hsize]
    split_ifs with hlong
    · obtain ⟨hdecision, hheads⟩ := commit_heads (l := l.held data) h.decision
      refine .inr ⟨hlong, body ++ data, ⟨List.prefix_rfl, .inl rfl⟩, ?_, ?_⟩
      · rw [hdecision, hheld]
      · rw [hheads, dressed_heads, hheld]
        show first.inner.heads ++ _ = _
        rw [hnone, List.nil_append]
    · refine .inl ⟨h.hijacked, h.commitFailure, h.decision, fun more => ?_⟩
      rw [held_held, h.held, List.append_assoc]

/-- **One more piece**, after the decision. -/
theorem Fallen.writeAll (h : Fallen first body l) (hlong : first.minSize ≤ body.length)
    (data : Bytes) : first.minSize ≤ (body ++ data).length ∧
      Fallen first (body ++ data) (Sink.writeAll l data).2 := by
  obtain ⟨front, hfront, hdecision, hheads⟩ := h
  obtain ⟨hkept, hsame⟩ := (outlastsWrites_decided (due_ne_pending _) _).writeAll
    ⟨hdecision, hheads⟩ data
  refine ⟨?_, front, ⟨hfront.1.trans (List.prefix_append _ _), .inr (hfront.length_iff.mpr hlong)⟩,
    hkept, hsame⟩
  rw [List.length_append]
  omega

/-- **All pieces**, one after the other. -/
theorem Poised.chunks (hblank : first.buffer = []) (hnone : first.inner.heads = [])
    (chunks : List Bytes) {body : Bytes} {l : GzipLayer (GzipStream ε) (HeadLog σ)}
    (h : Poised first body l ∨ first.minSize ≤ body.length ∧ Fallen first body l) :
    Poised first (body ++ chunks.flatten) (Call.performAll (chunks.map .writeAll) l).2 ∨
      first.minSize ≤ (body ++ chunks.flatten).length ∧
        Fallen first (body ++ chunks.flatten) (Call.performAll (chunks.map .writeAll) l).2 := by
  induction chunks generalizing body l with
  | nil =>
    rw [List.flatten_nil, List.append_nil]
    exact h
  | cons data chunks ih =>
    rw [List.flatten_cons, ← List.append_assoc]
    refine ih (l := (Sink.writeAll l data).2) ?_
    rcases h with hpoised | ⟨hlong, hfallen⟩
    · exact hpoised.writeAll hblank hnone data
    · exact .inr (hfallen.writeAll hlong data)

/-- **At the end** the decision falls on the whole body, if it has not fallen before. -/
theorem Poised.close (h : Poised first body l) (hnone : first.inner.heads = []) :
    Fallen first body l.close.2 := by
  obtain ⟨hdue, hhead⟩ := held_nil l
  have hheld := h.held []
  rw [List.append_nil] at hheld
  obtain ⟨hdecision, hheads⟩ := commit_heads h.decision
  obtain ⟨hkept, hsame⟩ := Operation.apply_decided (commit_ne_pending l) .close
  rw [close_commit h.hijacked]
  refine ⟨body, ⟨List.prefix_rfl, .inl rfl⟩, ?_, ?_⟩
  · rw [← hheld, hdue, ← hdecision]
    exact hkept
  · rw [← hheld, hhead]
    refine hsame.trans ?_
    have hbelow : l.inner.heads = first.inner.heads := congrArg (fun l => l.inner.heads) hheld
    rw [hheads, dressed_heads, hbelow, hnone, List.nil_append]

theorem Fallen.close (h : Fallen first body l) : Fallen first body l.close.2 := by
  obtain ⟨front, hfront, hdecision, hheads⟩ := h
  have hdecided : l.decision ≠ .pending := by
    rw [hdecision]
    exact due_ne_pending _
  obtain ⟨hkept, hsame⟩ := Operation.apply_decided hdecided .close
  exact ⟨front, hfront, hkept.trans hdecision, hsame.trans hheads⟩

/-! ### A whole response -/

/-- **Nothing has been written** to a layer. -/
structure Blank (minSize : Nat) (l : GzipLayer (GzipStream ε) (HeadLog σ)) : Prop where
  decision : l.decision = .pending
  minSize : l.minSize = minSize
  buffer : l.buffer = []
  heads : l.inner.heads = []

/-- **What comes before the body** leaves it so. -/
theorem Blank.performAll {minSize : Nat} {l : GzipLayer (GzipStream ε) (HeadLog σ)}
    (h : Blank minSize l)
    (calls : List Call) (hcalls : ∀ call ∈ calls, call.isOpening = true) :
    Blank minSize (Call.performAll calls l).2 :=
  Call.performAll_opening (fun h _ => ⟨h.decision, h.minSize, h.buffer, h.heads⟩)
    (fun h _ => ⟨h.decision, h.minSize, h.buffer, h.heads⟩) h hcalls

/-- What is due on a front is due on the body, and so is the head. -/
theorem held_front {minSize : Nat} {l : GzipLayer (GzipStream ε) (HeadLog σ)} (h : Blank minSize l)
    {front body : Bytes} (hfront : IsFront minSize front body)
    (htype : (declaredType? (Sink.headers l)).isSome = true ∨ Sniff.window ≤ minSize) :
    (l.held front).due = (l.held body).due ∧ (l.held front).nextHead = (l.held body).nextHead := by
  -- nothing is held yet, so the decision is about the data alone
  have hdue (data : Bytes) : (l.held data).due
      = decide (Sink.headers l) (l.status.getD 200) minSize data := by
    show decide (Sink.headers l) (l.status.getD 200) l.minSize (l.buffer ++ data) = _
    rw [h.minSize, h.buffer, List.nil_append]
  have hsame : (l.held front).due = (l.held body).due := by
    rw [hdue, hdue]
    exact (decide_front hfront _ _ htype).1
  refine ⟨hsame, ?_⟩
  have hbuffer (data : Bytes) : (l.held data).buffer = data := by
    show l.buffer ++ data = data
    rw [h.buffer, List.nil_append]
  have hheaders : compressedHeaders (Sink.headers l) (l.held front).buffer
      = compressedHeaders (Sink.headers l) (l.held body).buffer := by
    rw [hbuffer, hbuffer]
    exact (decide_front hfront _ (l.status.getD 200) htype).2
  have hdressed : (l.held front).dressed = (l.held body).dressed := by
    unfold dressed
    rw [hsame]
    cases (l.held body).due with
    | compress => exact congrArg (Sink.setHeaders l.inner) hheaders
    | _ => rfl
  unfold nextHead
  rw [hdressed]
  rfl

/-- **A body has arrived** as it is or as one member, as the decision says. -/
def Delivered (l : GzipLayer (GzipStream ε) (HeadLog (Traced σ))) (body : Bytes) : Prop :=
  l.decision = .compress ∧ Member.Holds l.inner.sink.body body ∨
    l.decision = .skip ∧ l.inner.sink.body = body

/-- **A layer that is closed after a body in pieces**: closing succeeds, the body has arrived, and
the decision has fallen on a front of it. -/
theorem chunks_closed (hε : Deflater.EndsDecodable ε) {P : σ → Prop} (hP : Sink.Reliable P)
    {k : Ledger} {minSize : Nat} {first : GzipLayer (GzipStream ε) (HeadLog (Traced σ))}
    (hledger : Relates (fun k w => Traced.Account P k w.sink) k first)
    (hblank : Blank minSize first) (chunks : List Bytes) :
    ∃ l, (Call.performAll (chunks.map .writeAll) first).2.close = (.ok (), l) ∧
      Delivered l chunks.flatten ∧ Fallen first chunks.flatten l := by
  have hR := HeadLog.keeps (Traced.keeps hP)
  have hprompt := HeadLog.prompt (Traced.prompt hP)
  -- nothing was written before
  have hwritten : k.written = [] := by
    rcases hledger.phase with hp | hs | hc
    · rw [← hp.buffer, hblank.buffer]
    · exact absurd (hs.decision.symm.trans hblank.decision) (by decide)
    · exact absurd (hc.decision.symm.trans hblank.decision) (by decide)
  obtain ⟨k', hk', hall⟩ := (keeps hR hprompt).chunks chunks hledger
  rw [hwritten, List.nil_append] at hall
  obtain ⟨l, hclose, hended⟩ := hk'.close hε hR hprompt
  refine ⟨l, hclose, ?_, ?_⟩
  · cases hended with
    | plain hdecision _ j hj hsettle =>
      refine .inr ⟨hdecision, ?_⟩
      rw [hj.1, ← hall, ← Ledger.settle_written k', hsettle, Ledger.settle_written]
    | member hdecision _ head body hbody hj =>
      refine .inl ⟨hdecision, ?_⟩
      rw [hj.1, ← hall]
      exact hbody
  · have hstart : Poised first [] first :=
      ⟨hledger.hijacked, hledger.commitFailure, hblank.decision, fun _ => rfl⟩
    have hend := Poised.chunks hblank.buffer hblank.heads chunks (.inl hstart)
    rw [List.nil_append] at hend
    have hl : l = (Call.performAll (chunks.map .writeAll) first).2.close.2 := by rw [hclose]
    rw [hl]
    rcases hend with hpoised | ⟨-, hfallen⟩
    · exact hpoised.close hblank.heads
    · exact hfallen.close

/-- **It does not matter how a body is split.** Let a stream from a pool be put in front of a sink
that never fails for good, and let header edits and statuses follow. Then let one body be written in
two ways, in any pieces, and the layer be closed. If the type of the body is declared, or all bytes
that a type is guessed from are held back, both runs take the same decision and send the same head,
and the body arrives in both. -/
theorem splits_alike (hε : Deflater.EndsDecodable ε) {pool : EncoderPool (GzipStream ε)}
    (hpool : pool.Reachable)
    {sink : σ} (hsink : Sink.NeverFails sink) (minSize : Nat) (opening : List Call)
    (hopening : ∀ call ∈ opening, call.isOpening = true) (chunks chunks' : List Bytes)
    (hbody : chunks'.flatten = chunks.flatten) :
    let layer := GzipLayer.around ({ sink := { sink } } : HeadLog (Traced σ)) pool.acquire.1 minSize
    let opened := (Call.performAll opening layer).2
    (declaredType? (Sink.headers opened)).isSome = true ∨ Sniff.window ≤ minSize →
    ∃ l l', (Call.performAll (chunks.map .writeAll) opened).2.close = (.ok (), l) ∧
      (Call.performAll (chunks'.map .writeAll) opened).2.close = (.ok (), l') ∧
      l'.decision = l.decision ∧
      (∃ head, l.inner.heads = [head] ∧ l'.inner.heads = [head]) ∧
      Delivered l chunks.flatten ∧ Delivered l' chunks.flatten := by
  intro layer opened htype
  obtain ⟨P, hP, hs⟩ := hsink
  obtain ⟨level, hnew⟩ := hpool.acquire_new
  have hR := HeadLog.keeps (Traced.keeps hP)
  have hprompt := HeadLog.prompt (Traced.prompt hP)
  have hstart : Relates (fun k (w : HeadLog (Traced σ)) => Traced.Account P k w.sink) {} layer := by
    show Relates _ _ (GzipLayer.around _ pool.acquire.1 minSize)
    rw [hnew]
    exact relates_around ⟨rfl, hs⟩ level minSize
  have hplain : ∀ call ∈ opening, call.isPlain = true := fun call hcall =>
    Call.isPlain_of_isOpening (hopening call hcall)
  obtain ⟨k, hk, -⟩ := Call.performAll_reported (keeps hR hprompt) opening hplain hstart
  -- nothing is decided by the opening, so both runs decide over the same bytes
  have hblank : Blank minSize opened :=
    Blank.performAll (l := layer) ⟨rfl, rfl, rfl, rfl⟩ opening hopening
  obtain ⟨l, hclose, hdelivered, front, hfront, hdecision, hheads⟩ :=
    chunks_closed hε hP hk hblank chunks
  obtain ⟨l', hclose', hdelivered', front', hfront', hdecision', hheads'⟩ :=
    chunks_closed hε hP hk hblank chunks'
  rw [hbody] at hdelivered' hfront'
  rw [hblank.minSize] at hfront hfront'
  have hdue := held_front hblank hfront htype
  have hdue' := held_front hblank hfront' htype
  refine ⟨l, l', hclose, hclose', ?_, ⟨(opened.held chunks.flatten).nextHead, ?_, ?_⟩, hdelivered,
    hdelivered'⟩
  · rw [hdecision, hdecision', hdue.1, hdue'.1]
  · rw [hheads, hdue.2]
  · rw [hheads', hdue'.2]

/-- Six bytes in three pieces and in two, with a declared type, over a sink that takes some bytes at
a time and has to be asked again. -/
theorem splits_alike_typed :
    let sink : ScriptedSink := { writes := [.accept 3, .interrupt "again", .accept 1] }
    let pool : EncoderPool Stored := .ofSettings 6 1
    let layer :=
      GzipLayer.around ({ sink := { sink } } : HeadLog (Traced ScriptedSink)) pool.acquire.1 4
    let opened := (Call.performAll [.status 201,
      .set (Bytes.ofString "content-type") (Bytes.ofString "text/html")] layer).2
    ∃ l l',
      (Call.performAll [.writeAll [1, 2], .writeAll [], .writeAll [3, 4, 5, 6]] opened).2.close
        = (.ok (), l) ∧
      (Call.performAll [.writeAll [1, 2, 3, 4, 5], .writeAll [6]] opened).2.close = (.ok (), l') ∧
      l'.decision = l.decision ∧
      (∃ head, l.inner.heads = [head] ∧ l'.inner.heads = [head]) ∧
      Delivered l [1, 2, 3, 4, 5, 6] ∧ Delivered l' [1, 2, 3, 4, 5, 6] :=
  splits_alike (Deflater.endsDecodable StoredBlocks) (.made 6 1) (ScriptedSink.neverFails (by simp))
    4 _ (by decide) [[1, 2], [], [3, 4, 5, 6]] [[1, 2, 3, 4, 5], [6]] rfl (.inl (by decide +kernel))

end GzipLayer

end HttpPipeline
