import HttpPipeline.Proofs.Response.Heads
import HttpPipeline.Proofs.Response.Untouched

/-!
# How an error reply arrives

A reply that reports an error is made on a sink of which nothing has been asked but header edits.
It replaces some headers, gives a status and writes the message. From then on nobody edits the
headers but a compression layer, before it sends the head.

So two things can be said of a sink while a reply is made on it (`Sink.Replies`): it is fresh, with
the headers that stand, or it bears a head and some body. A layer around such a sink is such a sink.
A compression layer holds the reply back, and then sends it on as it is or as one member, and in the
second case it declares so (`Arrives`). It compresses nothing that declares an encoding, so a reply
that one layer has compressed is not compressed by the next (`Arrives.trans`), and a tower of any
layers sends it on as one layer does (`Stack.unwind_bears`).

At the bottom is a sink whose writes do not fail for good. What it bears is read off the record of
its arrivals, and off what a client sees of the headers (`Traced.replies`).
-/

namespace HttpPipeline

/-! ### Sinks for a reply -/

namespace Sink

variable {ω : Type}

/-- What may have become of an offer of some bytes of a body: a part was taken, not empty unless
the offer was, or the offer has to be repeated. -/
def Progress (bears : Head → Bytes → ω → Prop) (head : Head) (body data : Bytes) :
    Attempt × ω → Prop
  | (.accepted count, w) =>
    count ≤ data.length ∧ (data ≠ [] → 0 < count) ∧ bears head (body ++ data.take count) w
  | (.interrupted _, w) => bears head body w
  | (.failed _, _) => False

/-- **A sink for a reply.** It is fresh with some headers until it is given a status. Then it bears
a head, with these headers, and what was taken of the body. -/
structure Replies [Sink ω] (fresh : Headers → ω → Prop) (bears : Head → Bytes → ω → Prop) :
    Prop where
  headers : ∀ {h w}, fresh h w → Sink.headers w = h
  setHeaders : ∀ {h w}, fresh h w → ∀ h', fresh h' (Sink.setHeaders w h')
  sendStatus : ∀ {h w}, fresh h w → ∀ code, bears ⟨code, h⟩ [] (Sink.sendStatus w code)
  write : ∀ {head body w}, bears head body w → ∀ data,
    Progress bears head body data (Sink.write w data)

variable [Sink ω] {fresh : Headers → ω → Prop} {bears : Head → Bytes → ω → Prop}

namespace Replies

/-- **Whatever headers are set**, one after the other, the sink stays fresh. -/
theorem edited (hR : Replies fresh bears) {headers : Headers} {w : ω} (h : fresh headers w)
    (edits : List Headers) : ∃ left, fresh left (edits.foldl Sink.setHeaders w) := by
  induction edits generalizing headers w with
  | nil => exact ⟨headers, h⟩
  | cons edit edits ih => exact ih (hR.setHeaders h edit)

/-- **Writing everything** succeeds. -/
theorem writeAll (hR : Replies fresh bears) {head : Head} {body : Bytes} {w : ω}
    (h : bears head body w) (data : Bytes) :
    ∃ w', Sink.writeAll w data = (.ok (), w') ∧ bears head (body ++ data) w' := by
  fun_induction Sink.writeAll w data generalizing body with
  | case1 w data hempty =>
    rw [List.isEmpty_iff.mp hempty, List.append_nil]
    exact ⟨w, rfl, h⟩
  | case2 w data hne w' hwrite =>
    -- of an offer that is not empty something is accepted
    have hstep := hR.write h data
    rw [hwrite] at hstep
    exact absurd (hstep.2.1 (by simpa using hne)) (Nat.lt_irrefl 0)
  | case3 w data hne count w' hwrite ih =>
    have hstep := hR.write h data
    rw [hwrite] at hstep
    have hrest := ih hstep.2.2
    rwa [List.append_assoc, List.take_append_drop] at hrest
  | case4 w data hne message w' hwrite ih =>
    have hstep := hR.write h data
    rw [hwrite] at hstep
    exact ih hstep
  | case5 w data hne cause w' hwrite =>
    have hstep := hR.write h data
    rw [hwrite] at hstep
    exact hstep.elim

/-- **The reply** is borne, with its headers and its body. -/
theorem errorReply (hR : Replies fresh bears) {headers : Headers} {w : ω} (h : fresh headers w)
    (code : Status) (message : String) :
    bears ⟨code, replyHeaders headers⟩ (replyBody message) (Sink.errorReply w code message) := by
  have hedited : fresh (replyHeaders headers) (Sink.editHeaders w replyHeaders) := by
    rw [Sink.editHeaders, hR.headers h]
    exact hR.setHeaders h _
  obtain ⟨w', hwrite, hw'⟩ := hR.writeAll (hR.sendStatus hedited code) (replyBody message)
  have hreply : Sink.errorReply w code message = w' := congrArg Prod.snd hwrite
  rw [hreply]
  exact hw'

end Replies

end Sink

/-! ### Layers that look -/

section Layers

variable {ω : Type} [Sink ω] {fresh : Headers → ω → Prop} {bears : Head → Bytes → ω → Prop}

theorem CommitLayer.replies (hR : Sink.Replies fresh bears) :
    Sink.Replies (fun h (l : CommitLayer ω) => fresh h l.inner)
      (fun head body l => bears head body l.inner) where
  headers := fun h => hR.headers h
  setHeaders := fun h h' => hR.setHeaders h h'
  sendStatus := fun h code => hR.sendStatus h code
  write := by
    intro head body l h data
    have hstep := hR.write h data
    show Sink.Progress _ head body data (l.write data)
    unfold CommitLayer.write
    rcases heq : Sink.write l.inner data with ⟨attempt, inner⟩
    rw [heq] at hstep
    cases attempt <;> exact hstep

theorem PassLayer.replies (hR : Sink.Replies fresh bears) :
    Sink.Replies (fun h (l : PassLayer ω) => fresh h l.inner)
      (fun head body l => bears head body l.inner) where
  headers := fun h => hR.headers h
  setHeaders := fun h h' => hR.setHeaders h h'
  sendStatus := fun h code => hR.sendStatus h code
  write := by
    intro head body l h data
    have hstep := hR.write h data
    show Sink.Progress _ head body data
      ((Sink.write l.inner data).1, { l with inner := (Sink.write l.inner data).2 })
    rcases heq : Sink.write l.inner data with ⟨attempt, inner⟩
    rw [heq] at hstep
    cases attempt <;> exact hstep

namespace StatusLayer

/-- A layer that has seen no status. -/
def Fresh (fresh : Headers → ω → Prop) (headers : Headers) (l : StatusLayer ω) : Prop :=
  l.status = none ∧ fresh headers l.inner

theorem replies (hR : Sink.Replies fresh bears) :
    Sink.Replies (Fresh fresh) (fun head body (l : StatusLayer ω) => bears head body l.inner) where
  headers := fun h => hR.headers h.2
  setHeaders := fun h h' => ⟨h.1, hR.setHeaders h.2 h'⟩
  sendStatus := by
    intro headers l h code
    show bears _ _ (l.sendStatus code).inner
    rw [StatusLayer.sendStatus, h.1]
    exact hR.sendStatus h.2 code
  write := by
    intro head body l h data
    have hstep := hR.write h data
    show Sink.Progress _ head body data (l.write data)
    simp only [StatusLayer.write, imply]
    rcases heq : Sink.write l.inner data with ⟨attempt, inner⟩
    rw [heq] at hstep
    cases attempt <;> exact hstep

end StatusLayer

/-! ### A layer that compresses -/

/-- **How a reply arrives** behind layers: as it was sent or, if it declared no encoding, as one
member that is declared. -/
inductive Arrives : Head → Bytes → Head → Bytes → Prop
  | plain (head : Head) (body : Bytes) : Arrives head body head body
  | member (head : Head) (body : Bytes) (hplain : head.headers.nonempty? "content-encoding" = none)
    (buffer : Bytes) {coded : Bytes} (hcoded : Member.Holds coded body) :
    Arrives head body ⟨head.status, GzipLayer.compressedHeaders head.headers buffer⟩ coded

namespace GzipLayer

variable {ε : Type}

/-- Nothing that declares an encoding is compressed. -/
theorem plain_of_compress {headers : Headers} {code : Status} {minSize : Nat} {buffer : Bytes}
    (h : decide headers code minSize buffer = .compress) :
    headers.nonempty? "content-encoding" = none := by
  by_contra hencoded
  have hsome : (headers.nonempty? "content-encoding").isSome = true :=
    Option.isSome_iff_ne_none.mpr hencoded
  simp [decide, hsome] at h

omit [Sink ω] in
/-- A status that comes later does not count. -/
theorem sendStatus_of_status {l : GzipLayer (GzipStream ε) ω} {code : Status}
    (h : l.status = some code)
    (later : Status) : l.sendStatus later = l := by
  rw [GzipLayer.sendStatus, h]
  exact congrArg (fun status => { l with status }) h.symm

variable [Deflater ε]

/-- **A layer of which nothing was asked** but header edits. -/
structure Fresh (fresh : Headers → ω → Prop) (headers : Headers)
    (l : GzipLayer (GzipStream ε) ω) : Prop where
  decision : l.decision = .pending
  hijacked : l.hijacked = false
  commitFailure : l.commitFailure = none
  buffer : l.buffer = []
  status : l.status = none
  stream : ∃ level, l.stream = .new level
  inner : fresh headers l.inner

/-- The reply is held back. -/
structure Held (fresh : Headers → ω → Prop) (head : Head) (body : Bytes)
    (l : GzipLayer (GzipStream ε) ω) :
    Prop where
  decision : l.decision = .pending
  buffer : l.buffer = body
  stream : ∃ level, l.stream = .new level
  inner : fresh head.headers l.inner

/-- The reply is sent on as it is. -/
structure Passed (bears : Head → Bytes → ω → Prop) (head : Head) (body : Bytes)
    (l : GzipLayer (GzipStream ε) ω) : Prop where
  decision : l.decision = .skip
  inner : bears head body l.inner

/-- The reply is sent on as a member. -/
structure Packed (bears : Head → Bytes → ω → Prop) (head : Head) (body : Bytes)
    (l : GzipLayer (GzipStream ε) ω) : Prop where
  decision : l.decision = .compress
  plain : head.headers.nonempty? "content-encoding" = none
  inner : ∃ buffer out, l.stream.Holds body out ∧
    bears ⟨head.status, compressedHeaders head.headers buffer⟩ out l.inner

/-- **A layer that bears a reply.** -/
structure Bears (fresh : Headers → ω → Prop) (bears : Head → Bytes → ω → Prop) (head : Head)
    (body : Bytes) (l : GzipLayer (GzipStream ε) ω) : Prop where
  hijacked : l.hijacked = false
  commitFailure : l.commitFailure = none
  status : l.status = some head.status
  phase : Held fresh head body l ∨ Passed bears head body l ∨ Packed bears head body l

variable {l : GzipLayer (GzipStream ε) ω} {head : Head} {body : Bytes}

@[simp] theorem release_status (l : GzipLayer (GzipStream ε) ω) : l.release.status = l.status := by
  unfold release
  split <;> rfl

theorem release_passed (hR : Sink.Replies fresh bears) (hd : l.decision = .skip)
    (hf : l.commitFailure = none) (h : bears head [] l.inner) :
    l.release.commitFailure = none ∧ bears head l.buffer l.release.inner := by
  unfold release
  split_ifs with hempty
  · rw [List.isEmpty_iff.mp hempty]
    exact ⟨hf, h⟩
  · obtain ⟨w, hwrite, hw⟩ := hR.writeAll h l.buffer
    simp only [hd, hwrite]
    exact ⟨trivial, hw⟩

theorem release_packed (hR : Sink.Replies fresh bears) (hd : l.decision = .compress)
    (hf : l.commitFailure = none) {out : Bytes} (hstream : l.stream.Holds [] out)
    (h : bears head out l.inner) :
    l.release.commitFailure = none ∧
      ∃ out', l.release.stream.Holds l.buffer out' ∧ bears head out' l.release.inner := by
  unfold release
  split_ifs with hempty
  · rw [List.isEmpty_iff.mp hempty]
    exact ⟨hf, out, hstream, h⟩
  · obtain ⟨stream, more, hholds, hstep⟩ := hstream.write l.buffer
    obtain ⟨w, hwrite, hw⟩ := hR.writeAll h more
    simp only [hd, hstep, hwrite]
    exact ⟨trivial, _, hholds, hw⟩

/-- **The decision falls** on a reply that was held back. -/
theorem Held.commit (hR : Sink.Replies fresh bears) (h : Held fresh head body l)
    (hf : l.commitFailure = none) (hs : l.status = some head.status) :
    l.commit.commitFailure = none ∧ l.commit.status = some head.status ∧
      (Passed bears head body l.commit ∨ Packed bears head body l.commit) := by
  have hbuffer := h.buffer
  simp only [GzipLayer.commit, h.decision, hR.headers h.inner, hs, Option.getD_some]
  rcases decide_cases head.headers head.status l.minSize l.buffer with hd | ⟨hd, -⟩
  · -- the status goes down, and then what was held back
    simp only [hd]
    obtain ⟨hfailure, hinner⟩ := release_passed hR (l := { l with
      decision := .skip, status := some head.status
      inner := Sink.sendStatus l.inner head.status, reported := l.reported ++ [.skip] })
      rfl hf (hR.sendStatus h.inner head.status)
    exact ⟨hfailure, by simp, .inl ⟨by simp, hbuffer ▸ hinner⟩⟩
  · -- the head is that of a member, so it is edited before the status sends it
    simp only [hd]
    obtain ⟨level, hnew⟩ := h.stream
    have hedited := hR.setHeaders h.inner (compressedHeaders head.headers l.buffer)
    obtain ⟨hfailure, out, hholds, hinner⟩ := release_packed hR (l := { l with
      decision := .compress, status := some head.status
      inner := Sink.sendStatus (Sink.setHeaders l.inner
        (compressedHeaders head.headers l.buffer)) head.status
      reported := l.reported ++ [.compress] })
      rfl hf (by rw [hnew]; exact GzipStream.holds_new level) (hR.sendStatus hedited head.status)
    exact ⟨hfailure, by simp,
      .inr ⟨by simp, plain_of_compress hd, _, out, hbuffer ▸ hholds, hinner⟩⟩

/-- **The decision falls**, if it had not, and the reply stays what it is. -/
theorem Bears.commit (hR : Sink.Replies fresh bears) (h : Bears fresh bears head body l) :
    Bears fresh bears head body l.commit ∧
      (Passed bears head body l.commit ∨ Packed bears head body l.commit) := by
  rcases h.phase with hheld | hpassed | hpacked
  · obtain ⟨hf, hs, hphase⟩ := hheld.commit hR h.commitFailure h.status
    exact ⟨⟨(commit_hijacked l).trans h.hijacked, hf, hs, .inr hphase⟩, hphase⟩
  · rw [commit_of_ne (by rw [hpassed.decision]; decide)]
    exact ⟨h, .inl hpassed⟩
  · rw [commit_of_ne (by rw [hpacked.decision]; decide)]
    exact ⟨h, .inr hpacked⟩

/-- A write while the reply is held back is taken whole. -/
theorem Held.collect (hR : Sink.Replies fresh bears) (h : Bears fresh bears head body l)
    (hheld : Held fresh head body l) (data : Bytes) :
    ∃ l', l.collect data = (.accepted data.length, l') ∧
      Bears fresh bears head (body ++ data) l' := by
  have hadded : Bears fresh bears head (body ++ data) { l with buffer := l.buffer ++ data } :=
    ⟨h.hijacked, h.commitFailure, h.status,
      .inl ⟨hheld.decision, by rw [hheld.buffer], hheld.stream, hheld.inner⟩⟩
  unfold GzipLayer.collect
  simp only
  split_ifs with hshort
  · exact ⟨_, by rw [report, hadded.commitFailure], hadded⟩
  · -- the buffer is full, and goes down with the decision
    have hcommitted := (hadded.commit hR).1
    exact ⟨_, by rw [report, hcommitted.commitFailure], hcommitted⟩

/-- A write to the member is taken whole. -/
theorem Packed.compressOn (hR : Sink.Replies fresh bears) (h : Bears fresh bears head body l)
    (hpacked : Packed bears head body l) (data : Bytes) :
    ∃ l', l.compressOn data = (.accepted data.length, l') ∧
      Bears fresh bears head (body ++ data) l' := by
  obtain ⟨buffer, out, hstream, hinner⟩ := hpacked.inner
  obtain ⟨stream, more, hholds, hstep⟩ := hstream.write data
  obtain ⟨w, hwrite, hw⟩ := hR.writeAll hinner more
  refine ⟨{ l with stream, inner := w }, ?_, h.hijacked, h.commitFailure, h.status,
    .inr (.inr ⟨hpacked.decision, hpacked.plain, buffer, _, hholds, hw⟩)⟩
  rw [GzipLayer.compressOn, hstep, hwrite]

/-- A write that is passed on is that of the sink below. -/
theorem Passed.passOn (hR : Sink.Replies fresh bears) (h : Bears fresh bears head body l)
    (hpassed : Passed bears head body l) (data : Bytes) :
    Sink.Progress (Bears fresh bears) head body data (l.passOn data) := by
  -- the layer over whatever becomes of the sink below
  have hback {body' : Bytes} {w : ω} (hw : bears head body' w) :
      Bears fresh bears head body' { l with inner := w } :=
    ⟨h.hijacked, h.commitFailure, h.status, .inr (.inl ⟨hpassed.decision, hw⟩)⟩
  have hstep := hR.write hpassed.inner data
  unfold GzipLayer.passOn
  rcases heq : Sink.write l.inner data with ⟨attempt, inner⟩
  rw [heq] at hstep
  cases attempt with
  | accepted count => exact ⟨hstep.1, hstep.2.1, hback hstep.2.2⟩
  | interrupted message => exact hback hstep
  | failed cause => exact hstep

/-- **A compression layer** is a sink for a reply. -/
theorem replies (hR : Sink.Replies fresh bears) :
    Sink.Replies (Fresh fresh : Headers → GzipLayer (GzipStream ε) ω → Prop)
      (Bears fresh bears) where
  headers := fun h => hR.headers h.inner
  setHeaders := fun h headers => { h with inner := hR.setHeaders h.inner headers }
  sendStatus := by
    intro headers l h code
    refine ⟨h.hijacked, h.commitFailure, ?_, .inl ⟨h.decision, h.buffer, h.stream, h.inner⟩⟩
    show some (l.status.getD code) = some code
    rw [h.status, Option.getD_none]
  write := by
    intro head body l h data
    have hwhole {l' : GzipLayer (GzipStream ε) ω} (hl' : Bears fresh bears head (body ++ data) l') :
        Sink.Progress (Bears fresh bears) head body data (.accepted data.length, l') :=
      ⟨Nat.le_refl _, List.length_pos_of_ne_nil, by rwa [List.take_length]⟩
    show Sink.Progress _ head body data (l.write data)
    simp only [GzipLayer.write, h.hijacked, Bool.false_eq_true, if_false, h.commitFailure,
      sendStatus_of_status h.status]
    -- the status was given before, so only the phase says where the data goes
    rcases h.phase with hheld | hpassed | hpacked
    · obtain ⟨l', hcollect, hl'⟩ := hheld.collect hR h data
      simp only [hheld.decision, hcollect]
      exact hwhole hl'
    · simp only [hpassed.decision]
      exact hpassed.passOn hR h data
    · obtain ⟨l', hcompress, hl'⟩ := hpacked.compressOn hR h data
      simp only [hpacked.decision, hcompress]
      exact hwhole hl'

/-- **Closing** sends the reply on. -/
theorem Bears.close (hε : Deflater.EndsDecodable ε) (hR : Sink.Replies fresh bears)
    (h : Bears fresh bears head body l) :
    ∃ head' body', Arrives head body head' body' ∧ bears head' body' l.close.2.inner := by
  obtain ⟨hcommitted, hphase⟩ := h.commit hR
  simp only [GzipLayer.close, h.hijacked, Bool.false_eq_true, if_false, hcommitted.commitFailure]
  rcases hphase with hpassed | hpacked
  · simp only [hpassed.decision]
    exact ⟨head, body, .plain head body, hpassed.inner⟩
  · -- what is left of the deflate stream is written, and then the trailer
    obtain ⟨buffer, out, hstream, hinner⟩ := hpacked.inner
    obtain ⟨tail, trailer, hmember, hfinish⟩ := hstream.finish hε
    obtain ⟨w₁, htail, hw₁⟩ := hR.writeAll hinner tail
    obtain ⟨w₂, htrailer, hw₂⟩ := hR.writeAll hw₁ trailer
    obtain ⟨stream, hstep⟩ := hfinish htail htrailer
    simp only [hpacked.decision, hstep]
    exact ⟨_, _, .member head body hpacked.plain buffer hmember, hw₂⟩

end GzipLayer

/-- **A reply is compressed once** at most, since a member is declared. -/
theorem Arrives.trans {head head' head'' : Head} {body body' body'' : Bytes}
    (h : Arrives head body head' body') (h' : Arrives head' body' head'' body'') :
    Arrives head body head'' body'' := by
  cases h with
  | plain => exact h'
  | member hplain buffer hcoded =>
    cases h' with
    | plain => exact .member head body hplain buffer hcoded
    | member hagain =>
      -- the first layer has declared the member
      have hdeclared : (GzipLayer.compressedHeaders head.headers buffer).nonempty?
          "content-encoding" = some (Bytes.ofString "gzip") := by
        rw [Headers.nonempty?, Headers.get?, GzipLayer.compressedHeaders_encoding]
        rfl
      exact absurd (hdeclared.symm.trans hagain) (by simp)

end Layers

/-! ### Towers -/

namespace Stack

variable {ε σ : Type} [Deflater ε]

/-- **A tower of which nothing was asked** but header edits, over such a bottom. -/
def Fresh (fresh : Headers → σ → Prop) : (s : Stack) → Headers → s.Writer (GzipStream ε) σ → Prop
  | bottom => fresh
  | status below => StatusLayer.Fresh (Fresh fresh below)
  | commit below => fun headers w => Fresh fresh below headers (CommitLayer.inner w)
  | pass below => fun headers w => Fresh fresh below headers (PassLayer.inner w)
  | gzip below => GzipLayer.Fresh (Fresh fresh below)

/-- **A tower that bears a reply**, over a bottom that bears what came down of it. -/
def Bears (fresh : Headers → σ → Prop) (bears : Head → Bytes → σ → Prop) :
    (s : Stack) → Head → Bytes → s.Writer (GzipStream ε) σ → Prop
  | bottom => bears
  | status below => fun head body w => Bears fresh bears below head body (StatusLayer.inner w)
  | commit below => fun head body w => Bears fresh bears below head body (CommitLayer.inner w)
  | pass below => fun head body w => Bears fresh bears below head body (PassLayer.inner w)
  | gzip below => GzipLayer.Bears (Fresh fresh below) (Bears fresh bears below)

variable [Sink σ] {fresh : Headers → σ → Prop} {bears : Head → Bytes → σ → Prop}

theorem replies (hR : Sink.Replies fresh bears) (s : Stack) :
    Sink.Replies (Fresh fresh s : Headers → s.Writer (GzipStream ε) σ → Prop)
      (Bears fresh bears s) := by
  induction s with
  | bottom => exact hR
  | status below ih => exact StatusLayer.replies ih
  | commit below ih => exact CommitLayer.replies ih
  | pass below ih => exact PassLayer.replies ih
  | gzip below ih => exact GzipLayer.replies ih

/-- **A tower that is closed** has sent the reply to its bottom. -/
theorem unwind_bears (hε : Deflater.EndsDecodable ε) (hR : Sink.Replies fresh bears) (s : Stack)
    {head : Head} {body : Bytes} {w : s.Writer (GzipStream ε) σ}
    (h : s.Bears fresh bears head body w) :
    ∃ head' body', Arrives head body head' body' ∧ bears head' body' (s.unwind [] w).2 := by
  induction s generalizing head body with
  | bottom => exact ⟨head, body, .plain head body, h⟩
  | status below ih => exact ih h
  | commit below ih => exact ih h
  | pass below ih => exact ih h
  | gzip below ih =>
    -- the layer is closed before those below it, so they bear all that it sends on
    obtain ⟨head', body', hlayer, hinner⟩ := GzipLayer.Bears.close hε (below.replies hR) h
    obtain ⟨head'', body'', hbelow, hbottom⟩ := ih hinner
    exact ⟨head'', body'', hlayer.trans hbelow, hbottom⟩

end Stack

/-- **A tower of layers** around a fresh bottom is fresh. -/
theorem Tower.fresh_ofLayers {ε σ : Type} [Deflater ε] {fresh : Headers → σ → Prop}
    {headers : Headers} {bottom : σ} (h : fresh headers bottom) (kinds : List LayerKind) :
    let tower : Tower (GzipStream ε) σ := ofLayers bottom kinds
    tower.shape.Fresh fresh headers tower.writer := by
  refine ofLayers_induction
    (motive := fun t : Tower (GzipStream ε) σ => t.shape.Fresh fresh headers t.writer) h
    kinds (fun t kind _ ht => ?_)
  cases kind with
  | status => exact ⟨rfl, ht⟩
  | commit => exact ht
  | pass flag => exact ht
  | gzip minSize level => exact ⟨rfl, rfl, rfl, rfl, rfl, ⟨_, rfl⟩, ht⟩

/-! ### The bottom of a tower -/

/-- A recorder takes everything while its connection is not taken over. -/
theorem Recorder.reliable : Sink.Reliable fun r : Recorder => r.hijacked = false := by
  have hhead {r : Recorder} (h : r.hijacked = false) (code : Status) :
      (r.sendHead code).hijacked = false := by
    unfold Recorder.sendHead
    split <;> exact h
  refine ⟨fun h _ => h, fun {r} h code => ?_, fun {r} h data => ?_, fun {r} h => ?_⟩
  · show (r.sendStatus code).hijacked = false
    rw [Recorder.sendStatus, h, if_neg Bool.false_ne_true]
    exact hhead h code
  · show Sink.Succeeds _ data (r.write data)
    rw [Recorder.write, h, if_neg Bool.false_ne_true]
    exact ⟨Nat.le_refl _, List.length_pos_of_ne_nil, hhead h 200⟩
  · show r.flush.2.hijacked = false
    rw [Recorder.flush, h, if_neg Bool.false_ne_true]

/-- A head that is sent has the headers of the moment. -/
theorem Sink.Pictures.carried {ω : Type} [Sink ω] {sent : ω → Option Head} {w w' : ω}
    (h : Pictures sent w w') (hw : Sink.carried sent w = Sink.headers w) :
    Sink.carried sent w' = Sink.headers w := by
  rcases h.2 with hsame | ⟨code, hnew⟩
  · rw [Sink.carried, hsame, h.1]
    exact hw
  · rw [Sink.carried, hnew]
    rfl

namespace Traced

variable {σ : Type} [Sink σ] {P : σ → Prop} {sent : σ → Option Head}

/-- **A sink of which nothing was asked** but header edits. -/
structure Fresh (P : σ → Prop) (sent : σ → Option Head) (headers : Headers) (t : Traced σ) :
    Prop where
  reliable : P t.sink
  unsent : sent t.sink = none
  headers : Sink.headers t.sink = headers
  arrivals : t.arrivals = []

/-- **A sink that bears a reply**: what a client sees of the headers, and what has arrived. -/
structure Bears (P : σ → Prop) (sent : σ → Option Head) (head : Head) (body : Bytes)
    (t : Traced σ) : Prop where
  reliable : P t.sink
  headers : Sink.headers t.sink = head.headers
  carried : Sink.carried sent t.sink = head.headers
  statuses : t.statuses = [head.status]
  body : t.body = body

/-- **A sink whose writes do not fail for good** is one for a reply. -/
theorem replies (hP : Sink.Reliable P) (hsent : Sink.SendsHead sent) :
    Sink.Replies (Fresh P sent) (Bears P sent) where
  headers := fun h => h.headers
  setHeaders := by
    intro headers t h headers'
    obtain ⟨hlive, hsame⟩ := hsent.setHeaders t.sink headers'
    exact ⟨hP.setHeaders h.reliable headers', hsame.trans h.unsent, hlive, h.arrivals⟩
  sendStatus := by
    intro headers t h code
    -- no head has gone out yet, so what the sink carries are its headers
    have hpicture := hsent.sendStatus t.sink code
    have hlive : Sink.carried sent t.sink = Sink.headers t.sink := by
      rw [Sink.carried, h.unsent]
      rfl
    refine ⟨hP.sendStatus h.reliable code, hpicture.1.trans h.headers,
      (hpicture.carried hlive).trans h.headers, ?_, ?_⟩
    · show (t.note (.status code) _).statuses = [code]
      rw [statuses_note, statuses, h.arrivals]
      rfl
    · show (t.note (.status code) _).body = []
      rw [body_note, body, h.arrivals]
      rfl
  write := by
    intro head body t h data
    have hpicture := hsent.write t.sink data
    have hsucceeds := hP.write h.reliable data
    show Sink.Progress _ head body data (t.write data)
    rcases heq : Sink.write t.sink data with ⟨attempt, s⟩
    rw [heq] at hpicture hsucceeds
    simp only [Traced.write, heq]
    -- what arrives is noted, and the headers stay
    have hnoted (hs : P s) (accepted : Bytes) :
        Bears P sent head (body ++ accepted) (t.note (.bytes accepted) s) := by
      refine ⟨hs, hpicture.1.trans h.headers,
        (hpicture.carried (h.carried.trans h.headers.symm)).trans h.headers, ?_, ?_⟩
      · rw [statuses_note, h.statuses]
        rfl
      · rw [body_note, h.body]
    cases attempt with
    | accepted count => exact ⟨hsucceeds.1, hsucceeds.2.1, hnoted hsucceeds.2.2 _⟩
    | interrupted message =>
      have hnothing := hnoted hsucceeds []
      rwa [List.append_nil] at hnothing
    | failed cause => exact hsucceeds

end Traced

end HttpPipeline
