import HttpPipeline.Response.Tower
import HttpPipeline.Proofs.Response.Falling
import HttpPipeline.Proofs.Response.Flushing
import HttpPipeline.Proofs.Response.Reply
import HttpPipeline.Proofs.Response.Spared

/-!
# Layers that compress behind each other

A tower may have any number of layers that compress. Each of them decides at its own time and on its
own buffer, and a layer further in sees of the body only what the layers outside let through, which
may be the bytes of a member. All that one layer tells another is in the live headers: the layer
that compresses declares a content encoding, and no layer compresses what declares one.

Two things are carried through a tower, from the bottom up. The one is the ledger. A layer outside
another one cannot know when a head was sent, so what the ledger says of the head is dropped below
each layer that compresses (`Sink.Blind`, `Stack.Accounts`). The other is what the headers declare
(`Stack.Declares`). While a layer waits, nothing was asked of the layers below but header edits
(`Stack.Unasked`). If it decides against compression, the layers below get the same values. If it
decides for it, the values had declared nothing, and the layers below get `gzip`.

So what closing the tower makes of a body is the body itself or one member that is declared
(`Wrapped`), for each layer and, since two members in a row cannot be (`Wrapped.trans`), for any
number of them (`Stack.Declares.unwind`).
-/

namespace HttpPipeline

/-! ### What became of a body -/

/-- No encoding is declared by some values: there are none, or the first of them is empty. -/
def Undeclared (values : List Bytes) : Prop := values.head?.filter (!·.isEmpty) = none

instance (values : List Bytes) : Decidable (Undeclared values) :=
  inferInstanceAs (Decidable (_ = _))

/-- The header that a layer declares its member with. -/
def isEncoding (name : String) : Bool := name == "content-encoding"

/-- **What layers make of a body**, given the values of the content encoding: it stays as it is, and
so do the values, or one layer makes a member of it and declares this. The number says how many
layers compress. -/
inductive Wrapped : List Bytes → Bytes → Nat → List Bytes → Bytes → Prop
  | plain (values : List Bytes) (data : Bytes) : Wrapped values data 0 values data
  | member {values : List Bytes} {data member : Bytes} (hvalues : Undeclared values)
    (hmember : Member.Holds member data) :
    Wrapped values data 1 [Bytes.ofString "gzip"] member

/-- **Compression never nests**: a member is declared, so it is not compressed again. -/
theorem Wrapped.trans {values values' values'' : List Bytes} {data data' data'' : Bytes}
    {count count' : Nat} (h : Wrapped values data count values' data')
    (h' : Wrapped values' data' count' values'' data'') :
    Wrapped values data (count' + count) values'' data'' := by
  cases h with
  | plain => exact h'
  | member hvalues hmember =>
    cases h' with
    | plain => exact .member hvalues hmember
    | member hagain => exact absurd hagain (by decide)

/-- So at most one layer compresses. -/
theorem Wrapped.once {values values' : List Bytes} {data data' : Bytes} {count : Nat}
    (h : Wrapped values data count values' data') :
    (count = 0 ∧ data' = data ∧ values' = values) ∨
      (count = 1 ∧ Member.Holds data' data ∧ values' = [Bytes.ofString "gzip"]) := by
  cases h with
  | plain => exact .inl ⟨rfl, rfl, rfl⟩
  | member hvalues hmember => exact .inr ⟨rfl, hmember, rfl⟩

/-! ### Ledgers that say nothing of the head -/

namespace Sink

variable {ω : Type} {R : Ledger → ω → Prop}

/-- **A ledger without the head.** -/
def Blind (R : Ledger → ω → Prop) (k : Ledger) (w : ω) : Prop := R { k with sent := none } w

variable [Sink ω]

theorem Keeps.blind (hR : Keeps R) : Keeps (Blind R) where
  setHeaders := fun h headers => hR.setHeaders h headers
  sendFinal := fun h _ hcode => hR.sendFinal h hcode
  sendInterim := fun h _ hcode => hR.sendInterim h hcode
  write := by
    intro k w h data
    have htaken := hR.write h data
    rcases heq : Sink.write w data with ⟨attempt, w'⟩
    rw [heq] at htaken
    cases attempt <;> exact htaken
  flush := by
    intro k w h
    have hflushed := hR.flush h
    rcases heq : Sink.flush w with ⟨result, w'⟩
    rw [heq] at hflushed
    cases result <;> exact hflushed

/-- Where nothing is said of the head, it may as well have been sent at once. -/
theorem Keeps.blind_prompt (hR : Keeps R) : Prompt (Blind R) :=
  fun _ h _ hcode => hR.sendFinal (k := {}) h hcode

end Sink

namespace Stack

variable {ε σ : Type} [Deflater ε]

/-- **The ledger of a tower** with any number of layers that compress. -/
def Accounts (R : Ledger → σ → Prop) : (s : Stack) → Ledger → s.Writer (GzipStream ε) σ → Prop
  | bottom => R
  | status below => StatusLayer.Relates (Accounts R below)
  | commit below => CommitLayer.Relates (Accounts R below)
  | pass below => PassLayer.Relates (Accounts R below)
  | gzip below => GzipLayer.Relates (Sink.Blind (Accounts R below))

variable [Sink σ] {R : Ledger → σ → Prop}

theorem accounts_keeps (hR : Sink.Keeps R) (s : Stack) :
    Sink.Keeps (Accounts R s : Ledger → s.Writer (GzipStream ε) σ → Prop) := by
  induction s with
  | bottom => exact hR
  | status below ih => exact StatusLayer.keeps ih
  | commit below ih => exact CommitLayer.keeps ih
  | pass below ih => exact PassLayer.keeps ih
  | gzip below ih => exact GzipLayer.keeps ih.blind ih.blind_prompt

end Stack

/-! ### What the headers declare -/

namespace Stack

variable {ε σ : Type} [Sink σ]

/-- **Nothing was asked** but header edits: no layer has decided, and no head was sent. -/
def Unasked (sent : σ → Option Head) : (s : Stack) → s.Writer (GzipStream ε) σ → Prop
  | bottom, w => sent w = none
  | status below, w => Unasked sent below (StatusLayer.inner w)
  | commit below, w => Unasked sent below (CommitLayer.inner w)
  | pass below, w => Unasked sent below (PassLayer.inner w)
  | gzip below, w =>
    GzipLayer.decision w = .pending ∧ Unasked sent below (GzipLayer.inner w)

variable [Deflater ε]

/-- **Before a body**: header edits and statuses were asked, and the outermost layer that compresses
has kept the statuses from those below it. -/
def Opening (sent : σ → Option Head) : (s : Stack) → s.Writer (GzipStream ε) σ → Prop
  | bottom, _ => True
  | status below, w => Opening sent below (StatusLayer.inner w)
  | commit below, w => Opening sent below (CommitLayer.inner w)
  | pass below, w => Opening sent below (PassLayer.inner w)
  | gzip below, w =>
    GzipLayer.decision w = .pending ∧ Unasked sent below (GzipLayer.inner w)

/-- **The values of the content encoding** that the handler has left. Below a layer that compresses
it is the encoding of the layer that is declared. -/
def Declares (sent : σ → Option Head) : (s : Stack) → List Bytes → s.Writer (GzipStream ε) σ → Prop
  | bottom, values => Sink.Stand sent isEncoding fun _ => values
  | status below, values => fun w => Declares sent below values (StatusLayer.inner w)
  | commit below, values => fun w => Declares sent below values (CommitLayer.inner w)
  | pass below, values => fun w => Declares sent below values (PassLayer.inner w)
  | gzip below, values =>
    GzipLayer.Phased
      (fun w => Unasked sent below w ∧ (Sink.headers w).values "content-encoding" = values)
      (Declares sent below values)
      (fun w => Undeclared values ∧ Declares sent below [Bytes.ofString "gzip"] w)

variable {sent : σ → Option Head} {s : Stack}

theorem Unasked.setHeaders (hsent : Sink.SendsHead sent) {w : s.Writer (GzipStream ε) σ}
    (h : s.Unasked sent w) (headers : Headers) : s.Unasked sent (Sink.setHeaders w headers) := by
  induction s with
  | bottom => exact (hsent.setHeaders w headers).2.trans h
  | status below ih => exact ih h
  | commit below ih => exact ih h
  | pass below ih => exact ih h
  | gzip below ih => exact ⟨h.1, ih h.2⟩

/-- Headers that are set stand. -/
theorem headers_setHeaders (hsent : Sink.SendsHead sent) (w : s.Writer (GzipStream ε) σ)
    (headers : Headers) :
    Sink.headers (Sink.setHeaders w headers) = headers := by
  rw [headers_base, base_setHeaders]
  exact (hsent.setHeaders _ headers).1

/-- **Where nothing was asked** the values are those that stand. -/
theorem Unasked.declares {w : s.Writer (GzipStream ε) σ} (h : s.Unasked sent w)
    {values : List Bytes}
    (hvalues : (Sink.headers w).values "content-encoding" = values) : s.Declares sent values w := by
  induction s with
  | bottom =>
    refine ⟨fun name hname => ?_, fun head hhead => absurd (h.symm.trans hhead) (by simp)⟩
    rw [beq_iff_eq.mp hname]
    exact hvalues
  | status below ih => exact ih h hvalues
  | commit below ih => exact ih h hvalues
  | pass below ih => exact ih h hvalues
  | gzip below ih =>
    unfold Declares GzipLayer.Phased
    rw [h.1]
    exact ⟨h.2, hvalues⟩

/-- **A decision leads on** from the values that stood while it was pending, if the layers below
keep their values. -/
theorem declares_leads (hsent : Sink.SendsHead sent)
    (hs : ∀ values, Sink.Outlasts (.keeping isEncoding)
      (s.Declares sent values : s.Writer (GzipStream ε) σ → Prop)) (values : List Bytes) :
    GzipLayer.Leads
      (fun w : s.Writer (GzipStream ε) σ =>
        s.Unasked sent w ∧ (Sink.headers w).values "content-encoding" = values)
      (s.Declares sent values)
      (fun w => Undeclared values ∧ s.Declares sent [Bytes.ofString "gzip"] w) where
  skip := by
    rintro w ⟨hunasked, hvalues⟩ code
    exact (hs values).sendStatus (hunasked.declares hvalues) code
  compress := by
    -- what is compressed had declared nothing, and declares its encoding from now on
    rintro w ⟨hunasked, rfl⟩ code minSize buffer hcompress
    refine ⟨GzipLayer.plain_of_compress hcompress, (hs _).sendStatus ?_ code⟩
    refine (hunasked.setHeaders hsent _).declares ?_
    rw [headers_setHeaders hsent, GzipLayer.compressedHeaders_encoding]

/-- **The values stay**, whatever is asked that leaves the content encoding alone. -/
theorem declares_outlasts (hsent : Sink.SendsHead sent) (s : Stack) (values : List Bytes) :
    Sink.Outlasts (.keeping isEncoding)
      (s.Declares sent values : s.Writer (GzipStream ε) σ → Prop) := by
  induction s generalizing values with
  | bottom => exact hsent.outlasts.keeping
  | status below ih => exact StatusLayer.outlasts (ih values)
  | commit below ih => exact CommitLayer.outlasts (ih values)
  | pass below ih => exact PassLayer.outlasts (ih values)
  | gzip below ih =>
    refine GzipLayer.outlasts_phased ?_ (fun hhijack => absurd hhijack id) (ih values)
      ((Sink.Outlasts.const _ _).and (ih _)) (declares_leads hsent ih values)
    rintro w ⟨hunasked, hvalues⟩ headers hedit
    refine ⟨hunasked.setHeaders hsent headers, ?_⟩
    rw [headers_setHeaders hsent, hedit _ (beq_self_eq_true _), hvalues]

/-! ### Before the body -/

omit [Sink σ] [Deflater ε] in
theorem Unasked.opening {w : s.Writer (GzipStream ε) σ} (h : s.Unasked sent w) :
    s.Opening sent w := by
  induction s with
  | bottom => trivial
  | status below ih => exact ih h
  | commit below ih => exact ih h
  | pass below ih => exact ih h
  | gzip below ih => exact h

theorem Opening.setHeaders (hsent : Sink.SendsHead sent) {w : s.Writer (GzipStream ε) σ}
    (h : s.Opening sent w) (headers : Headers) : s.Opening sent (Sink.setHeaders w headers) := by
  induction s with
  | bottom => trivial
  | status below ih => exact ih h
  | commit below ih => exact ih h
  | pass below ih => exact ih h
  | gzip below ih => exact ⟨h.1, h.2.setHeaders hsent headers⟩

theorem Opening.sendStatus {w : s.Writer (GzipStream ε) σ} (h : s.Opening sent w) (code : Status) :
    s.Opening sent (Sink.sendStatus w code) := by
  induction s with
  | bottom => trivial
  | status below ih =>
    show below.Opening sent (StatusLayer.sendStatus w code).inner
    unfold StatusLayer.sendStatus
    split
    · exact h
    · exact ih h
  | commit below ih => exact ih h
  | pass below ih => exact ih h
  | gzip below ih => exact h

/-- **The values that stand before a body** are those that the handler has left, if some layer has
kept the status back. -/
theorem Opening.declares {w : s.Writer (GzipStream ε) σ} (h : s.Opening sent w) (hs : s.gzips ≠ 0) :
    s.Declares sent ((Sink.headers w).values "content-encoding") w := by
  induction s with
  | bottom => exact absurd rfl hs
  | status below ih => exact ih h hs
  | commit below ih => exact ih h hs
  | pass below ih => exact ih h hs
  | gzip below ih =>
    have hunasked : (gzip below).Unasked sent w := h
    exact hunasked.declares rfl

end Stack

/-! ### Closing the layers -/

/-- Whether a layer has compressed the body. -/
def Removed.compressed {ε : Type} (r : Removed (GzipStream ε)) : Bool :=
  match r.state with
  | .gzip .compress _ => true
  | _ => false

namespace Stack

variable {ε σ : Type} [Deflater ε] [Sink σ] {R : Ledger → σ → Prop} {s : Stack} {k : Ledger}

/-- A layer that compresses is closed before it is taken off. -/
theorem unwind_gzip {below : Stack} (l : GzipLayer (GzipStream ε) (below.Writer (GzipStream ε) σ)) :
    (gzip below).unwind [] l =
      ({ state := l.close.2.state, result := some l.close.1, stream := some l.close.2.stream } ::
        (below.unwind [] l.close.2.inner).1, (below.unwind [] l.close.2.inner).2) := rfl

/-- **A tower without a layer that compresses** leaves the body as it is. -/
theorem Accounts.unwind_plain {w : s.Writer (GzipStream ε) σ} (hs : s.gzips = 0)
    (h : s.Accounts R k w) :
    ∃ j, R j (s.unwind [] w).2 ∧ j.written = k.written ∧
      (s.unwind [] w).1.countP Removed.compressed = 0 := by
  induction s generalizing k with
  | bottom => exact ⟨k, h, rfl, rfl⟩
  | status below ih =>
    obtain ⟨code, hbelow, -⟩ := h
    obtain ⟨j, hj, hwritten, hcount⟩ := ih hs hbelow
    exact ⟨j, hj, hwritten, (List.countP_cons_of_neg (by simp [Removed.compressed,
      StatusLayer.state])).trans hcount⟩
  | commit below ih =>
    obtain ⟨j, hj, hwritten, hcount⟩ := ih hs h
    exact ⟨j, hj, hwritten, (List.countP_cons_of_neg (by simp [Removed.compressed])).trans hcount⟩
  | pass below ih => exact ih hs h
  | gzip below ih => exact absurd hs (Nat.succ_ne_zero _)

/-- **Closing a tower** makes at most one member of a body, and it is declared. -/
theorem Declares.unwind (hε : Deflater.EndsDecodable ε) (hR : Sink.Keeps R)
    {sent : σ → Option Head} (hsent : Sink.SendsHead sent) {values : List Bytes}
    {w : s.Writer (GzipStream ε) σ} (h : s.Accounts R k w) (hd : s.Declares sent values w) :
    ∃ j values', R j (s.unwind [] w).2 ∧
      Sink.Stand sent isEncoding (fun _ => values') (s.unwind [] w).2 ∧
      Wrapped values k.written ((s.unwind [] w).1.countP Removed.compressed) values' j.written := by
  induction s generalizing k values with
  | bottom => exact ⟨k, values, h, hd, .plain values k.written⟩
  | status below ih =>
    obtain ⟨code, hbelow, -⟩ := h
    obtain ⟨j, values', hj, hstand, hwrapped⟩ := ih hbelow hd
    refine ⟨j, values', hj, hstand, ?_⟩
    rwa [Stack.unwind, List.countP_cons_of_neg (by simp [Removed.compressed, StatusLayer.state])]
  | commit below ih =>
    obtain ⟨j, values', hj, hstand, hwrapped⟩ := ih h hd
    refine ⟨j, values', hj, hstand, ?_⟩
    rwa [Stack.unwind, List.countP_cons_of_neg (by simp [Removed.compressed])]
  | pass below ih => exact ih h hd
  | gzip below ih =>
    -- the layer is closed first, so the layers below it have its last bytes when they are closed
    have hkeeps := below.accounts_keeps (ε := ε) hR
    obtain ⟨l, hclose, hended⟩ := GzipLayer.Relates.close hε hkeeps.blind hkeeps.blind_prompt h
    have hvalues := below.declares_outlasts (ε := ε) hsent
    have hphase := GzipLayer.Phased.close (hvalues values).writes
      ((Sink.Outlasts.const _ _).and (hvalues _)).writes (declares_leads hsent hvalues values) hd
    rw [hclose] at hphase
    have hremoved := unwind_gzip w
    rw [hclose] at hremoved
    rw [hremoved]
    cases hended with
    | plain hdecision _ i hi hsettle =>
      have hbelow := (GzipLayer.Phased.skip_iff hdecision).mp hphase
      obtain ⟨j, values', hj, hstand, hwrapped⟩ := ih hi hbelow
      refine ⟨j, values', hj, hstand, ?_⟩
      rw [List.countP_cons_of_neg (by simp [Removed.compressed, GzipLayer.state, hdecision])]
      have hwritten : k.settle.written = i.settle.written := congrArg Ledger.written hsettle
      rw [Ledger.settle_written, Ledger.settle_written] at hwritten
      rw [hwritten]
      exact hwrapped
    | member hdecision _ head body hbody hi =>
      -- below, the member is the body
      obtain ⟨hundeclared, hbelow⟩ := (GzipLayer.Phased.compress_iff hdecision).mp hphase
      obtain ⟨j, values', hj, hstand, hwrapped⟩ := ih hi hbelow
      refine ⟨j, values', hj, hstand, ?_⟩
      rw [List.countP_cons_of_pos (by simp [Removed.compressed, GzipLayer.state, hdecision])]
      exact (Wrapped.member hundeclared hbody).trans hwrapped

end Stack

/-! ### Whole responses -/

/-- A watched sink sends its head as the sink does. -/
theorem Traced.sendsHead {σ : Type} [Sink σ] {sent : σ → Option Head}
    (hsent : Sink.SendsHead sent) : Sink.SendsHead fun t : Traced σ => sent t.sink :=
  ⟨fun t headers => hsent.setHeaders t.sink headers, fun t code => hsent.sendStatus t.sink code,
    fun t data => hsent.write t.sink data, fun t => hsent.flush t.sink,
    fun t answer => hsent.hijack t.sink answer⟩

namespace Tower

variable {ε σ : Type} [Deflater ε]

theorem unasked_ofLayers (sent : σ → Option Head) (bottom : σ) (h : sent bottom = none)
    (kinds : List LayerKind) :
    let tower : Tower (GzipStream ε) σ := ofLayers bottom kinds
    tower.shape.Unasked sent tower.writer := by
  refine ofLayers_induction
    (motive := fun t : Tower (GzipStream ε) σ => t.shape.Unasked sent t.writer) h
    kinds (fun t kind _ ht => ?_)
  cases kind with
  | gzip minSize level => exact ⟨rfl, ht⟩
  | _ => exact ht

theorem accounts_ofLayers {R : Ledger → σ → Prop} {bottom : σ} (h : R {} bottom)
    (kinds : List LayerKind) :
    let tower : Tower (GzipStream ε) σ := ofLayers bottom kinds
    tower.shape.Accounts R {} tower.writer := by
  refine ofLayers_induction
    (motive := fun t : Tower (GzipStream ε) σ => t.shape.Accounts R {} t.writer) h
    kinds (fun t kind _ ht => ?_)
  cases kind with
  | status => exact StatusLayer.relates_around ht
  | commit => exact ht
  | pass flag => exact ht
  | gzip minSize level =>
    exact GzipLayer.relates_around (R := Sink.Blind (t.shape.Accounts R)) ht _ minSize

variable [Sink σ] {P : σ → Prop} {sent : σ → Option Head}

/-- **Compression never nests.** Let layers of any number and in any order be built around a sink
whose writes do not fail for good and that has sent no head, with any number among them that
compress, each from a length of its own. Let the headers be edited and statuses be given, and then
let any statuses, writes, flushes and header edits follow that leave the content encoding alone.
When the layers are closed, the outermost first, at most one of them has compressed.

* If none has, the sink has just what was written. What the client sees of the content encoding is
  what stood before the body. (Without a layer that compresses a status sends the head at once, so
  the client may see what stood earlier.)
* If one has, the sink has one member that holds what was written, and the client sees `gzip`. -/
theorem compresses_once (hε : Deflater.EndsDecodable ε) (hP : Sink.Reliable P)
    (hsent : Sink.SendsHead sent) {sink : σ} (hsink : P sink) (hunsent : sent sink = none)
    (kinds : List LayerKind) (opening calls : List Call)
    (hopening : ∀ call ∈ opening, call.isOpening = true)
    (hcalls : ∀ call ∈ calls, call.isPlain = true ∧ call.spares isEncoding = true) :
    let tower : Tower (GzipStream ε) (Traced σ) := ofLayers { sink } kinds
    let opened := (Call.performAll opening tower.writer).2
    let asked := Call.performAll (opening ++ calls) tower.writer
    let written := Call.allReported (opening ++ calls) asked.1
    let ended := tower.shape.unwind [] asked.2
    let compressed := ended.1.countP Removed.compressed
    let seen := (Sink.carried sent ended.2.sink).values "content-encoding"
    (compressed = 0 ∧ ended.2.body = written ∧
        (kinds.any LayerKind.isGzip = true →
          seen = (Sink.headers opened).values "content-encoding")) ∨
      (compressed = 1 ∧ Member.Holds ended.2.body written ∧ seen = [Bytes.ofString "gzip"]) := by
  intro tower opened asked written ended compressed seen
  have hR := Traced.keeps hP
  have hbottom := Traced.sendsHead hsent
  have hstart : tower.shape.Accounts (Traced.Account P) {} tower.writer :=
    accounts_ofLayers ⟨rfl, hsink⟩ kinds
  obtain ⟨k, hk, hwritten⟩ := Call.performAll_reported (tower.shape.accounts_keeps hR)
    (opening ++ calls)
    (fun call hcall => (List.mem_append.mp hcall).elim
      (fun hfirst => Call.isPlain_of_isOpening (hopening call hfirst))
      (fun hlater => (hcalls call hlater).1)) hstart
  have hall : k.written = written := hwritten
  by_cases hs : tower.shape.gzips = 0
  · -- a status may have gone down before the body, so nothing is known of the head
    obtain ⟨j, hj, hsame, hcount⟩ := hk.unwind_plain hs
    refine .inl ⟨hcount, ?_, fun hany => ?_⟩
    · rw [hj.1, hsame, hall]
    · rw [gzips_ofLayers, List.countP_eq_zero] at hs
      obtain ⟨kind, hkind, hgzip⟩ := List.any_eq_true.mp hany
      exact absurd hgzip (hs kind hkind)
  · -- the values that stand before the body stay to the end of it
    have hunasked := unasked_ofLayers (ε := ε) (fun t : Traced σ => sent t.sink) { sink } hunsent
      kinds
    have hbefore := Call.performAll_opening (fun h => h.setHeaders hbottom)
      (fun h => h.sendStatus) hunasked.opening hopening
    have hafter := (tower.shape.declares_outlasts hbottom _).performAll_keeping
      (hbefore.declares hs) hcalls
    rw [← Call.performAll_append] at hafter
    obtain ⟨j, values', hj, hstand, hwrapped⟩ := hafter.unwind hε hR hbottom hk
    have hseen : seen = values' := hstand.carried (beq_self_eq_true "content-encoding")
    have hbody : ended.2.body = j.written := hj.1
    rw [hseen, hbody, ← hall]
    exact hwrapped.once.imp_left fun hplain => ⟨hplain.1, hplain.2.1, fun _ => hplain.2.2⟩

/-- Three layers that compress, a status layer between them and a closed one in front. A type
is declared before the body, and another header is edited in the middle of it. -/
theorem compresses_once_thrice :
    let sink : Recorder := {}
    let kinds : List LayerKind := [.gzip 0 6, .gzip 4 1, .status, .gzip 2 9, .pass true]
    let opening : List Call :=
      [.set (Bytes.ofString "content-type") (Bytes.ofString "text/html"), .status 201]
    let calls : List Call := [.write [1, 2, 3], .flush, .append (Bytes.ofString "vary") [42],
      .writeAll [4, 5, 6, 7], .status 404]
    let tower : Tower (GzipStream StoredBlocks) (Traced Recorder) := ofLayers { sink } kinds
    let opened := (Call.performAll opening tower.writer).2
    let asked := Call.performAll (opening ++ calls) tower.writer
    let written := Call.allReported (opening ++ calls) asked.1
    let ended := tower.shape.unwind [] asked.2
    let compressed := ended.1.countP Removed.compressed
    let seen := (Sink.carried Recorder.sent ended.2.sink).values "content-encoding"
    (compressed = 0 ∧ ended.2.body = written ∧
        (kinds.any LayerKind.isGzip = true →
          seen = (Sink.headers opened).values "content-encoding")) ∨
      (compressed = 1 ∧ Member.Holds ended.2.body written ∧ seen = [Bytes.ofString "gzip"]) := by
  intro sink kinds opening calls
  have hsink : sink.hijacked = false := rfl
  exact compresses_once (Deflater.endsDecodable StoredBlocks) Recorder.reliable Recorder.sendsHead
    hsink rfl kinds opening calls (by decide) (by decide)

end Tower

end HttpPipeline
