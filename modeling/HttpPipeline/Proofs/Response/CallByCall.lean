import HttpPipeline.Proofs.Gzip.Reuse
import HttpPipeline.Proofs.Response.Reliable

/-!
# Compression call by call

It is up to the stream of a compression layer how its output is cut on the way down. A chunked
stream hands it over in pieces, and a stream that leaves its calls to an encoder hands it over at
once. So the sinks below two such streams do not remain in the same state. They may come to have
other headers, and one may refuse a flush that the other carries out. What they have in common, as
long as neither of them fails, is what has arrived.

Two layers with one memory, one for each kind of stream, are therefore compared in two phases
(`GzipLayer.Views`). Until the decision has fallen for compression, their sinks are the same; from
then on the same has arrived at both. In the second phase a layer asks its sink for nothing but to
take something, so that the two go on alike. No call tells them apart by what it reports as written
(`GzipLayer.shadows`), and in the end the same has arrived (`GzipLayer.performAll_view`).

So whatever a layer delivers with an encoder, it delivers with the calls of a compressor, too: all
that was written, as it is or as one member (`GzipLayer.chunked_delivers`).
-/

namespace HttpPipeline

/-! ### Sinks that report the same -/

/-- **One sink beside another**: whatever is asked of both, they take the same. -/
structure Sink.Shadows {ω ω' : Type} [Sink ω] [Sink ω'] (V : ω → ω' → Prop) : Prop where
  editHeaders : ∀ {w w'}, V w w' → ∀ edit, V (Sink.editHeaders w edit) (Sink.editHeaders w' edit)
  sendStatus : ∀ {w w'}, V w w' → ∀ code, V (Sink.sendStatus w code) (Sink.sendStatus w' code)
  write : Sink.MirrorsWrites V
  flush : ∀ {w w'}, V w w' → V (Sink.flush w).2 (Sink.flush w').2

namespace Call

variable {ω ω' : Type} [Sink ω] [Sink ω'] {V : ω → ω' → Prop} {w : ω} {w' : ω'}

/-- **One call** reports the same as written. -/
theorem perform_shadowed (hV : Sink.Shadows V) (h : V w w') (call : Call)
    (hcall : call.isPlain = true) :
    call.reported (call.perform w).1 = call.reported (call.perform w').1 ∧
      V (call.perform w).2 (call.perform w').2 := by
  -- the same edit on both sides, of headers that need not be the same
  have hheader (hcall : call.isHeader = true) : V (call.perform w).2 (call.perform w').2 := by
    rcases perform_edits hcall with hsame | ⟨edit, hedit⟩
    · rwa [hsame, hsame]
    · rw [hedit, hedit]
      exact hV.editHeaders h edit
  cases call with
  | set name value => exact ⟨rfl, hheader rfl⟩
  | append name value => exact ⟨rfl, hheader rfl⟩
  | remove name => exact ⟨rfl, hheader rfl⟩
  | get name => exact ⟨rfl, hheader rfl⟩
  | status code =>
    refine ⟨rfl, ?_⟩
    simp only [perform]
    split_ifs
    · exact hV.sendStatus h code
    · exact h
  | write data =>
    have hwrite := hV.write h data
    exact ⟨congrArg (fun attempt => reported (.write data) (.ofAttempt attempt)) hwrite.answer,
      hwrite.left⟩
  | writeAll data =>
    have hwrite := hV.write.writeAll h data
    exact ⟨congrArg (fun result => reported (.writeAll data) (.ofStream result)) hwrite.answer,
      hwrite.left⟩
  | flush => exact ⟨rfl, hV.flush h⟩
  | hijack answer => exact absurd hcall Bool.false_ne_true
  | errorReply code message => exact absurd hcall Bool.false_ne_true

/-- **Any calls** do. -/
theorem performAll_shadowed (hV : Sink.Shadows V) (h : V w w') (calls : List Call)
    (hcalls : ∀ call ∈ calls, call.isPlain = true) :
    allReported calls (performAll calls w).1 = allReported calls (performAll calls w').1 ∧
      V (performAll calls w).2 (performAll calls w').2 := by
  induction calls generalizing w w' with
  | nil => exact ⟨rfl, h⟩
  | cons call calls ih =>
    obtain ⟨hcall, hrest⟩ := List.forall_mem_cons.mp hcalls
    obtain ⟨hfirst, hnext⟩ := perform_shadowed hV h call hcall
    obtain ⟨hlater, hend⟩ := ih hnext hrest
    refine ⟨?_, hend⟩
    calc allReported (call :: calls) (performAll (call :: calls) w).1
        = call.reported (call.perform w).1
          ++ allReported calls (performAll calls (call.perform w).2).1 := rfl
      _ = call.reported (call.perform w').1
          ++ allReported calls (performAll calls (call.perform w').2).1 := by rw [hfirst, hlater]

end Call

/-! ### Streams -/

namespace ChunkedStream.InUse

open Compressor (Sound Driven)

variable {κ σ : Type} [Compressor κ] [Sink σ] {P : σ → Prop} {room : Nat}

/-- **The same stream twice**, call by call and with an encoder, over sinks at which the same has
arrived. -/
inductive Along (P : σ → Prop) (room : Nat) :
    InUse κ × Traced σ → GzipStream (Driven κ room) × Traced σ → Prop
  | mk {s : ChunkedStream κ} {t u : Traced σ} (hs : s.Between) (ht : P t.sink) (hu : P u.sink)
    (hbody : t.body = u.body) : Along P room (.ready s, t) (s.view room, u)

variable {x : InUse κ} {y : GzipStream (Driven κ room)} {t u : Traced σ}

omit [Sink σ] in
theorem Along.elim (h : Along P room (x, t) (y, u)) :
    P t.sink ∧ P u.sink ∧ t.body = u.body ∧
      ∀ {t' u' : Traced σ}, P t'.sink → P u'.sink → t'.body = u'.body →
        Along P room (x, t') (y, u') := by
  cases h with
  | mk hs ht hu hbody => exact ⟨ht, hu, hbody, fun ht' hu' hbody' => .mk hs ht' hu' hbody'⟩

section Sinks

variable (hP : Sink.Reliable P) (h : Along P room (x, t) (y, u))

include hP h

theorem Along.setHeaders (headers headers' : Headers) :
    Along P room (x, Sink.setHeaders t headers) (y, Sink.setHeaders u headers') := by
  obtain ⟨ht, hu, hbody, hsame⟩ := h.elim
  exact hsame (hP.setHeaders ht headers) (hP.setHeaders hu headers') hbody

theorem Along.sendStatus (code : Status) :
    Along P room (x, Sink.sendStatus t code) (y, Sink.sendStatus u code) := by
  obtain ⟨ht, hu, hbody, hsame⟩ := h.elim
  refine hsame (hP.sendStatus ht code) (hP.sendStatus hu code) ?_
  show (t.note _ _).body = (u.note _ _).body
  rw [Traced.body_note, Traced.body_note, hbody]

/-- One of the sinks may refuse a flush. -/
theorem Along.flushSinks : Along P room (x, (Sink.flush t).2) (y, (Sink.flush u).2) := by
  obtain ⟨ht, hu, hbody, hsame⟩ := h.elim
  refine hsame (hP.flush ht) (hP.flush hu) ?_
  show (t.note _ _).body = (u.note _ _).body
  rw [Traced.body_note, Traced.body_note, hbody]

end Sinks

section Operations

variable (hκ : Sound κ) (hP : Sink.Reliable P) (h : Along P room (x, t) (y, u))

include hκ hP h

/-- **An operation** ends, with the same result. -/
theorem Along.operate (operation : GzipStream.Operation) :
    Sink.Agree (Along P room) (x.operate (perform operation) t) (operation.perform y u) := by
  cases h with
  | @mk s _ _ hs ht hu hbody =>
    obtain ⟨result, s', t', u', hends, hwhole, hs', ht', hu', hbody'⟩ :=
      perform_view hκ hP operation hs ht hu hbody room
    show Sink.Agree _ (await (perform operation s t) t) _
    rw [hends, hwhole, await_some]
    exact ⟨rfl, .mk hs' ht' hu' hbody'⟩

theorem Along.write (data : Bytes) :
    Sink.Agree (Along P room) (MemberStream.write x data t) (MemberStream.write y data u) :=
  h.operate hκ hP (.write data)

theorem Along.flush :
    Sink.Agree (Along P room) (MemberStream.flush x t) (MemberStream.flush y u) :=
  h.operate hκ hP .flush

theorem Along.finish :
    Sink.Agree (Along P room) (MemberStream.finish x t) (MemberStream.finish y u) :=
  h.operate hκ hP .finish

end Operations

end ChunkedStream.InUse

/-! ### Layers -/

namespace GzipLayer

open ChunkedStream (InUse)
open ChunkedStream.InUse (Along)
open Compressor (Sound Driven)

variable {κ σ : Type} [Compressor κ] [Sink σ] {P : σ → Prop} {room : Nat}

/-- **The same layer twice**, call by call and with an encoder. -/
inductive Views (P : σ → Prop) (room : Nat) :
    GzipLayer (InUse κ) (Traced σ) → GzipLayer (GzipStream (Driven κ room)) (Traced σ) → Prop
  /-- Nothing has gone through the streams, so that the sinks are the same. -/
  | together {inner : Traced σ} {stream : InUse κ} {stream' : GzipStream (Driven κ room)}
    {minSize : Nat} {buffer : Bytes} {status : Option Status} {decision : Decision}
    {hijacked : Bool} {commitFailure : Option StreamError} {reported : List Decision}
    (h : Along P room (stream, inner) (stream', inner)) (hdecision : decision ≠ .compress) :
    Views P room
      ⟨inner, stream, minSize, buffer, status, decision, hijacked, commitFailure, reported⟩
      ⟨inner, stream', minSize, buffer, status, decision, hijacked, commitFailure, reported⟩
  /-- The same has arrived at the sinks. -/
  | apart {t u : Traced σ} {stream : InUse κ} {stream' : GzipStream (Driven κ room)}
    {minSize : Nat} {buffer : Bytes} {status : Option Status}
    {hijacked : Bool} {commitFailure : Option StreamError} {reported : List Decision}
    (h : Along P room (stream, t) (stream', u)) :
    Views P room
      ⟨t, stream, minSize, buffer, status, .compress, hijacked, commitFailure, reported⟩
      ⟨u, stream', minSize, buffer, status, .compress, hijacked, commitFailure, reported⟩

namespace Views

variable {l : GzipLayer (InUse κ) (Traced σ)}
  {l' : GzipLayer (GzipStream (Driven κ room)) (Traced σ)}

omit [Sink σ] in
theorem hijacked (h : Views P room l l') : l.hijacked = l'.hijacked := by
  cases h <;> rfl

omit [Sink σ] in
theorem decision (h : Views P room l l') : l.decision = l'.decision := by
  cases h <;> rfl

omit [Sink σ] in
theorem body (h : Views P room l l') : l.inner.body = l'.inner.body := by
  cases h with
  | together => rfl
  | apart h => exact h.elim.2.2.1

omit [Sink σ] in
theorem sendStatus (h : Views P room l l') (code : Status) :
    Views P room (l.sendStatus code) (l'.sendStatus code) := by
  cases h with
  | together h hdecision => exact .together h hdecision
  | apart h => exact .apart h

omit [Sink σ] in
theorem report (h : Views P room l l') (count : Nat) :
    Sink.Agree (Views P room) (l.report count) (l'.report count) := by
  cases h with
  | @together _ _ _ _ _ _ _ _ commitFailure _ h hdecision =>
    cases commitFailure <;> exact ⟨rfl, .together h hdecision⟩
  | @apart _ _ _ _ _ _ _ _ commitFailure _ h =>
    cases commitFailure <;> exact ⟨rfl, .apart h⟩

variable (hκ : Sound κ) (hP : Sink.Reliable P)

include hP in
theorem editHeaders (h : Views P room l l') (edit : Headers → Headers) :
    Views P room (Sink.editHeaders l edit) (Sink.editHeaders l' edit) := by
  cases h with
  | together h hdecision => exact .together (h.setHeaders hP _ _) hdecision
  | apart h => exact .apart (h.setHeaders hP _ _)

include hκ hP

/-- **The buffer goes down** through the streams. -/
theorem release_compress {x : InUse κ} {y : GzipStream (Driven κ room)} {t u : Traced σ}
    (h : Along P room (x, t) (y, u)) (minSize : Nat) (buffer : Bytes) (status : Option Status)
    (hijacked : Bool) (commitFailure : Option StreamError) (reported : List Decision) :
    Views P room
      (release ⟨t, x, minSize, buffer, status, .compress, hijacked, commitFailure, reported⟩)
      (release ⟨u, y, minSize, buffer, status, .compress, hijacked, commitFailure, reported⟩) := by
  simp only [GzipLayer.release]
  split_ifs
  · exact .apart h
  · refine (h.write hκ hP buffer).elim fun result left left' hleft => ?_
    obtain ⟨x, t⟩ := left
    obtain ⟨y, u⟩ := left'
    exact .apart hleft

omit hκ in
/-- **The buffer goes down** past the streams. -/
theorem release_skip {x : InUse κ} {y : GzipStream (Driven κ room)} {t : Traced σ}
    (h : Along P room (x, t) (y, t)) (minSize : Nat) (buffer : Bytes) (status : Option Status)
    (hijacked : Bool) (commitFailure : Option StreamError) (reported : List Decision) :
    Views P room
      (release ⟨t, x, minSize, buffer, status, .skip, hijacked, commitFailure, reported⟩)
      (release ⟨t, y, minSize, buffer, status, .skip, hijacked, commitFailure, reported⟩) := by
  simp only [GzipLayer.release]
  split_ifs
  · exact .together h (by decide)
  · obtain ⟨ht, -, -, hsame⟩ := h.elim
    obtain ⟨t', hwrite, -, ht'⟩ := Traced.writeAll_delivers hP ht buffer
    rw [hwrite]
    exact .together (hsame ht' ht' rfl) (by decide)

/-- **The decision** is the same, since it falls while the sinks are. -/
theorem commit (h : Views P room l l') : Views P room l.commit l'.commit := by
  cases h with
  | apart h => exact .apart h
  | @together inner x y minSize buffer status decision hijacked commitFailure reported h hne =>
    cases decision with
    | compress => exact absurd rfl hne
    | skip => exact .together h hne
    | pending =>
      simp only [GzipLayer.commit]
      rcases decide_cases (Sink.headers inner) (status.getD 200) minSize buffer with hd | ⟨hd, -⟩
      · rw [hd]
        exact release_skip hP (h.sendStatus hP _) _ _ _ _ _ _
      · rw [hd]
        exact release_compress hκ hP ((h.setHeaders hP _ _).sendStatus hP _) _ _ _ _ _ _

theorem collect (h : Views P room l l') (hdecision : l.decision = .pending) (data : Bytes) :
    Sink.Agree (Views P room) (l.collect data) (l'.collect data) := by
  cases h with
  | apart h => cases hdecision
  | together h hne =>
    simp only [GzipLayer.collect]
    split_ifs
    · exact report (.together h hne) _
    · exact report (commit hκ hP (.together h hne)) _

theorem write (h : Views P room l l') (data : Bytes) :
    Sink.Agree (Views P room) (l.write data) (l'.write data) := by
  simp only [GzipLayer.write, h.hijacked]
  split_ifs
  · exact ⟨rfl, h⟩
  · cases h with
    -- only the layers that compress have two kinds of streams; all else is the same on both sides
    | @apart t u x y minSize buffer status hijacked commitFailure reported h =>
      cases commitFailure with
      | some cause => exact ⟨rfl, .apart h⟩
      | none =>
        simp only [GzipLayer.sendStatus, GzipLayer.compressOn]
        refine (h.write hκ hP data).elim fun result left left' hleft => ?_
        obtain ⟨x, t⟩ := left
        obtain ⟨y, u⟩ := left'
        cases result <;> exact ⟨rfl, .apart hleft⟩
    | @together inner x y minSize buffer status decision hijacked commitFailure reported h hne =>
      cases commitFailure with
      | some cause => exact ⟨rfl, .together h hne⟩
      | none =>
        cases decision with
        | compress => exact absurd rfl hne
        | skip =>
          have hinner : P (Sink.write inner data).2.sink := hP.write_kept h.elim.1 data
          exact ⟨rfl, .together (h.elim.2.2.2 hinner hinner rfl) hne⟩
        | pending =>
          exact collect hκ hP (sendStatus (.together h hne) 200) rfl data

theorem flush (h : Views P room l l') : Views P room l.flush.2 l'.flush.2 := by
  simp only [GzipLayer.flush, h.hijacked]
  split_ifs
  · exact h
  -- a flush decides first; then it is passed on, and a compressing layer flushes its stream before
  · have hcommit := h.commit hκ hP
    generalize l.commit = c at hcommit ⊢
    generalize l'.commit = c' at hcommit ⊢
    cases hcommit with
    | @apart t u x y minSize buffer status hijacked commitFailure reported h =>
      cases commitFailure with
      | some cause => exact .apart h
      | none =>
        simp only
        refine (h.flush hκ hP).elim fun result left left' hleft => ?_
        obtain ⟨x, t⟩ := left
        obtain ⟨y, u⟩ := left'
        cases result with
        | error cause => exact .apart hleft
        | ok => exact .apart (hleft.flushSinks hP)
    | @together inner x y minSize buffer status decision hijacked commitFailure reported h hne =>
      cases commitFailure with
      | some cause => exact .together h hne
      | none =>
        cases decision with
        | compress => exact absurd rfl hne
        | _ => exact .together (h.flushSinks hP) hne

theorem close (h : Views P room l l') : Sink.Agree (Views P room) l.close l'.close := by
  simp only [GzipLayer.close, h.hijacked]
  split_ifs
  · exact ⟨rfl, h⟩
  · have hcommit := h.commit hκ hP
    generalize l.commit = c at hcommit ⊢
    generalize l'.commit = c' at hcommit ⊢
    cases hcommit with
    -- the end of the member is the one step that the streams take apart
    | @apart t u x y minSize buffer status hijacked commitFailure reported h =>
      cases commitFailure with
      | some cause => exact ⟨rfl, .apart h⟩
      | none =>
        simp only
        refine (h.finish hκ hP).elim fun result left left' hleft => ?_
        obtain ⟨x, t⟩ := left
        obtain ⟨y, u⟩ := left'
        exact ⟨rfl, .apart hleft⟩
    | @together inner x y minSize buffer status decision hijacked commitFailure reported h hne =>
      cases commitFailure with
      | some cause => exact ⟨rfl, .together h hne⟩
      | none =>
        cases decision with
        | compress => exact absurd rfl hne
        | _ => exact ⟨rfl, .together h hne⟩

theorem abandon (h : Views P room l l') : Views P room l.abandon l'.abandon := by
  cases h with
  | @apart t u x y minSize buffer status hijacked commitFailure reported h =>
    cases hijacked with
    | true => exact .apart h
    | false =>
      simp only [GzipLayer.abandon]
      refine (h.finish hκ hP).elim fun result left left' hleft => ?_
      obtain ⟨x, t⟩ := left
      obtain ⟨y, u⟩ := left'
      exact .apart hleft
  | @together inner x y minSize buffer status decision hijacked commitFailure reported h hne =>
    cases decision with
    | compress => exact absurd rfl hne
    | _ => exact .together h hne

/-- **The end of the layers**, however it is asked for. -/
theorem part (h : Views P room l l') (how : Parting) :
    Sink.Agree (Views P room) (l.part how) (l'.part how) := by
  cases how with
  | close =>
    have hclose := h.close hκ hP
    exact ⟨congrArg some hclose.answer, hclose.left⟩
  | abandon => exact ⟨rfl, h.abandon hκ hP⟩
  | drop => exact ⟨rfl, h⟩

end Views

theorem shadows (hκ : Sound κ) (hP : Sink.Reliable P) :
    Sink.Shadows (Views P room : GzipLayer (InUse κ) (Traced σ) →
      GzipLayer (GzipStream (Driven κ room)) (Traced σ) → Prop) where
  editHeaders h edit := h.editHeaders hP edit
  sendStatus h code := h.sendStatus code
  write _ _ h data := h.write hκ hP data
  flush h := h.flush hκ hP


omit [Sink σ] in
/-- A stream that is as new, in a layer around a sink that never fails. -/
theorem views_around {level : Nat} {s : ChunkedStream κ} (hs : s.AsNew level) {sink : σ}
    (hsink : P sink) (minSize : Nat) :
    Views P s.capacity (.around { sink } (.ready s) minSize)
      (.around { sink } (.new level) minSize) := by
  have hview : s.view s.capacity = .new level := by
    rcases hs with rfl | rfl <;> rfl
  have hbetween : s.Between := by
    rcases hs with rfl | rfl
    · exact ⟨rfl, fun _ => ⟨level, [], [], .start⟩⟩
    · exact ⟨rfl, fun _ => ⟨level, [], [], .start⟩⟩
  have halong : Along P s.capacity (.ready s, ({ sink } : Traced σ))
      (s.view s.capacity, ({ sink } : Traced σ)) := .mk hbetween hsink hsink rfl
  rw [hview] at halong
  exact .together halong (by decide)

/-- **A layer delivers the same call by call.** Let a chunked stream that is as new be put in front
of a sink that never fails for good, let any header edits, statuses, writes and flushes follow, and
then any end. A stream that leaves its calls to an encoder would have made no difference to what the
calls report as written, to the decision, to how the end went and to what arrived. -/
theorem performAll_view (hκ : Sound κ) {level : Nat} {s : ChunkedStream κ} (hs : s.AsNew level)
    {sink : σ} (hsink : Sink.NeverFails sink) (minSize : Nat) (calls : List Call)
    (hcalls : ∀ call ∈ calls, call.isPlain = true) (how : Parting) :
    let run := Call.performAll calls
      (.around { sink } (.ready s) minSize : GzipLayer (InUse κ) (Traced σ))
    let whole := Call.performAll calls (.around { sink } (.new level) minSize :
      GzipLayer (GzipStream (Driven κ s.capacity)) (Traced σ))
    Call.allReported calls run.1 = Call.allReported calls whole.1 ∧
      (run.2.part how).1 = (whole.2.part how).1 ∧
      (run.2.part how).2.decision = (whole.2.part how).2.decision ∧
      (run.2.part how).2.inner.body = (whole.2.part how).2.inner.body := by
  intro run whole
  obtain ⟨P, hP, hsink⟩ := hsink
  obtain ⟨hreported, hviews⟩ := Call.performAll_shadowed (shadows hκ hP)
    (views_around hs hsink minSize) calls hcalls
  have hend := hviews.part hκ hP how
  exact ⟨hreported, hend.answer, hend.left.decision, hend.left.body⟩

/-- **Nothing is lost, doubled or changed in order** call by call, either. Ending succeeds, and what
arrived is all that the calls reported as written, or one member that holds it. -/
theorem chunked_delivers (hκ : Sound κ) {level : Nat} {s : ChunkedStream κ} (hs : s.AsNew level)
    {sink : σ} (hsink : Sink.NeverFails sink) (minSize : Nat) (calls : List Call)
    (hcalls : ∀ call ∈ calls, call.isPlain = true) :
    let run := Call.performAll calls
      (.around { sink } (.ready s) minSize : GzipLayer (InUse κ) (Traced σ))
    let written := Call.allReported calls run.1
    ∃ l, run.2.close = (.ok (), l) ∧
      (l.decision = .compress ∧ Member.Holds l.inner.body written ∨
        l.decision = .skip ∧ l.inner.body = written) := by
  intro run written
  obtain ⟨hwritten, hresult, hdecision, hbody⟩ :=
    performAll_view hκ hs hsink minSize calls hcalls .close
  obtain ⟨ended, hclose, harrived⟩ :=
    around_delivers (hκ.endsDecodable s.capacity) hsink level minSize calls hcalls
  let whole : GzipLayer (GzipStream (Driven κ s.capacity)) (Traced σ) :=
    (Call.performAll calls (.around { sink } (.new level) minSize)).2
  have hend : whole.part .close = (some (.ok ()), ended) := by
    simp only [GzipLayer.part, whole, hclose]
  rw [hend] at hresult hdecision hbody
  -- what is so of the layer with an encoder is so of this one
  have hdecision : run.2.close.2.decision = ended.decision := hdecision
  have hbody : run.2.close.2.inner.body = ended.inner.body := hbody
  refine ⟨run.2.close.2, Prod.ext (Option.some.inj hresult) rfl, ?_⟩
  rw [hdecision, hbody, show written = _ from hwritten]
  exact harrived

end GzipLayer

end HttpPipeline
