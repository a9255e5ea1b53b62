import HttpPipeline.Proofs.Response.Decision
import HttpPipeline.Response.Call
import HttpPipeline.Response.Tower

/-!
# Sinks that cannot be told apart

Two states of a sink may differ in what no request brings to light. A relation between states says
so if related states have the same headers, give the same answers and stay related
(`Sink.Mirrors`).

A layer adds nothing to what can be told apart. It makes the same requests of related sinks, since
what it asks depends on its own memory and on the answers alone; so two layers with one memory
around related sinks are related again (`StatusLayer.mirrors`, `CommitLayer.mirrors`,
`PassLayer.mirrors`, `GzipLayer.mirrors`). The same goes for whatever is made of requests: repeated
writes (`Sink.Mirrors.writeAll`), operations of a compressed stream, the end of a compression layer
(`GzipLayer.Alike.part`) and any call (`Sink.Mirrors.perform`).
-/

namespace HttpPipeline

namespace Sink

/-- **States that no request tells apart.** -/
structure Mirrors {ω : Type} [Sink ω] (R : ω → ω → Prop) : Prop where
  headers : ∀ {w w'}, R w w' → Sink.headers w = Sink.headers w'
  setHeaders : ∀ {w w'}, R w w' → ∀ headers,
    R (Sink.setHeaders w headers) (Sink.setHeaders w' headers)
  sendStatus : ∀ {w w'}, R w w' → ∀ code, R (Sink.sendStatus w code) (Sink.sendStatus w' code)
  write : ∀ {w w'}, R w w' → ∀ data, Agree R (Sink.write w data) (Sink.write w' data)
  flush : ∀ {w w'}, R w w' → Agree R (Sink.flush w) (Sink.flush w')
  hijack : ∀ {w w'}, R w w' → ∀ answer, Agree R (Sink.hijack w answer) (Sink.hijack w' answer)

/-- A state is not told apart from itself. -/
theorem mirrors_eq {ω : Type} [Sink ω] : Mirrors (Eq : ω → ω → Prop) where
  headers := by
    rintro w _ rfl
    rfl
  setHeaders := by
    rintro w _ rfl headers
    rfl
  sendStatus := by
    rintro w _ rfl code
    rfl
  write := by
    rintro w _ rfl data
    exact ⟨rfl, rfl⟩
  flush := by
    rintro w _ rfl
    exact ⟨rfl, rfl⟩
  hijack := by
    rintro w _ rfl answer
    exact ⟨rfl, rfl⟩

namespace Mirrors

variable {ω : Type} [Sink ω] {R : ω → ω → Prop} {w w' : ω}

theorem editHeaders (hR : Mirrors R) (h : R w w') (edit : Headers → Headers) :
    R (Sink.editHeaders w edit) (Sink.editHeaders w' edit) := by
  rw [Sink.editHeaders, Sink.editHeaders, hR.headers h]
  exact hR.setHeaders h _

theorem writes (hR : Mirrors R) : MirrorsWrites R := fun _ _ h data => hR.write h data

theorem errorReply (hR : Mirrors R) (h : R w w') (code : Status) (message : String) :
    R (Sink.errorReply w code message) (Sink.errorReply w' code message) :=
  (hR.writes.writeAll (hR.sendStatus (hR.editHeaders h _) code) _).left

/-- **Any call** has the same outcome. -/
theorem perform (hR : Mirrors R) (h : R w w') (call : Call) :
    Agree R (call.perform w) (call.perform w') := by
  -- the headers agree, so an edit of them leads to related writers again
  have hheader (hcall : call.isHeader = true) : Agree R (call.perform w) (call.perform w') := by
    refine ⟨Call.perform_header_reply hcall (hR.headers h), ?_⟩
    rcases Call.perform_edits hcall with hsame | ⟨edit, hedit⟩
    · rwa [hsame, hsame]
    · rw [hedit, hedit]
      exact hR.editHeaders h edit
  cases call with
  | set name value => exact hheader rfl
  | append name value => exact hheader rfl
  | remove name => exact hheader rfl
  | get name => exact hheader rfl
  | status code =>
    simp only [Call.perform]
    split_ifs
    · exact ⟨rfl, hR.sendStatus h code⟩
    · exact ⟨rfl, h⟩
  | write data =>
    have hwrite := hR.write h data
    exact ⟨congrArg Reply.ofAttempt hwrite.answer, hwrite.left⟩
  | writeAll data =>
    have hwrite := hR.writes.writeAll h data
    exact ⟨congrArg Reply.ofStream hwrite.answer, hwrite.left⟩
  | flush =>
    have hflush := hR.flush h
    exact ⟨congrArg Reply.ofFlush hflush.answer, hflush.left⟩
  | hijack answer =>
    have hhijack := hR.hijack h answer
    exact ⟨congrArg Reply.ofHijack hhijack.answer, hhijack.left⟩
  | errorReply code message =>
    simp only [Call.perform]
    split_ifs
    · exact ⟨rfl, hR.errorReply h code message⟩
    · exact ⟨rfl, h⟩

end Mirrors

end Sink

/-! ### Layers that forward everything -/

section Layers

variable {ω : Type} {R : ω → ω → Prop}

/-- Two status layers with one memory around related sinks. -/
inductive StatusLayer.Alike (R : ω → ω → Prop) : StatusLayer ω → StatusLayer ω → Prop
  | mk {inner inner' : ω} {status : Option Status} {bytesWritten : Nat} {hijacked : Bool}
    (h : R inner inner') :
    Alike R ⟨inner, status, bytesWritten, hijacked⟩ ⟨inner', status, bytesWritten, hijacked⟩

/-- Two commit layers with one memory around related sinks. -/
inductive CommitLayer.Alike (R : ω → ω → Prop) : CommitLayer ω → CommitLayer ω → Prop
  | mk {inner inner' : ω} {written : Bool} (h : R inner inner') :
    Alike R ⟨inner, written⟩ ⟨inner', written⟩

/-- Two layers without a memory around related sinks. -/
inductive PassLayer.Alike (R : ω → ω → Prop) : PassLayer ω → PassLayer ω → Prop
  | mk {inner inner' : ω} {closed : Bool} (h : R inner inner') :
    Alike R ⟨inner, closed⟩ ⟨inner', closed⟩

variable [Sink ω]

theorem StatusLayer.mirrors (hR : Sink.Mirrors R) : Sink.Mirrors (StatusLayer.Alike R) where
  headers := by
    rintro _ _ ⟨h⟩
    exact hR.headers h
  setHeaders := by
    rintro _ _ ⟨h⟩ headers
    exact .mk (hR.setHeaders h headers)
  sendStatus := by
    rintro _ _ ⟨h⟩ code
    -- a status that is known already is not sent again
    rename_i inner inner' status bytesWritten hijacked
    cases status with
    | some first => exact .mk h
    | none => exact .mk (hR.sendStatus h code)
  write := by
    rintro _ _ ⟨h⟩ data
    show Sink.Agree _ (StatusLayer.write _ data) (StatusLayer.write _ data)
    simp only [StatusLayer.write, imply]
    refine (hR.write h data).elim fun attempt _ _ hleft => ?_
    cases attempt <;> exact ⟨rfl, .mk hleft⟩
  flush := by
    rintro _ _ ⟨h⟩
    show Sink.Agree _ (StatusLayer.flush _) (StatusLayer.flush _)
    simp only [StatusLayer.flush, imply]
    refine (hR.flush h).elim fun result _ _ hleft => ?_
    cases result <;> exact ⟨rfl, .mk hleft⟩
  hijack := by
    rintro _ _ ⟨h⟩ answer
    show Sink.Agree _ (StatusLayer.hijack _ answer) (StatusLayer.hijack _ answer)
    simp only [StatusLayer.hijack]
    refine (hR.hijack h answer).elim fun result _ _ hleft => ?_
    cases result <;> exact ⟨rfl, .mk hleft⟩

theorem CommitLayer.mirrors (hR : Sink.Mirrors R) : Sink.Mirrors (CommitLayer.Alike R) where
  headers := by
    rintro _ _ ⟨h⟩
    exact hR.headers h
  setHeaders := by
    rintro _ _ ⟨h⟩ headers
    exact .mk (hR.setHeaders h headers)
  sendStatus := by
    rintro _ _ ⟨h⟩ code
    exact .mk (hR.sendStatus h code)
  write := by
    rintro _ _ ⟨h⟩ data
    have hwrite := hR.write h data
    exact ⟨hwrite.answer, .mk hwrite.left⟩
  flush := by
    rintro _ _ ⟨h⟩
    show Sink.Agree _ (CommitLayer.flush _) (CommitLayer.flush _)
    -- the commit flag is set by an answer that is the same on both sides
    simp only [CommitLayer.flush]
    refine (hR.flush h).elim fun result _ _ hleft => ?_
    cases result <;> exact ⟨rfl, .mk hleft⟩
  hijack := by
    rintro _ _ ⟨h⟩ answer
    show Sink.Agree _ (CommitLayer.hijack _ answer) (CommitLayer.hijack _ answer)
    simp only [CommitLayer.hijack]
    refine (hR.hijack h answer).elim fun result _ _ hleft => ?_
    cases result <;> exact ⟨rfl, .mk hleft⟩

theorem PassLayer.mirrors (hR : Sink.Mirrors R) : Sink.Mirrors (PassLayer.Alike R) where
  headers := by
    rintro _ _ ⟨h⟩
    exact hR.headers h
  setHeaders := by
    rintro _ _ ⟨h⟩ headers
    exact .mk (hR.setHeaders h headers)
  sendStatus := by
    rintro _ _ ⟨h⟩ code
    exact .mk (hR.sendStatus h code)
  write := by
    rintro _ _ ⟨h⟩ data
    have hwrite := hR.write h data
    exact ⟨hwrite.answer, .mk hwrite.left⟩
  flush := by
    rintro _ _ ⟨h⟩
    rename_i closed
    -- a closed layer refuses by itself
    cases closed with
    | true => exact ⟨rfl, .mk h⟩
    | false =>
      have hflush := hR.flush h
      exact ⟨hflush.answer, .mk hflush.left⟩
  hijack := by
    rintro _ _ ⟨h⟩ answer
    rename_i closed
    -- a closed layer hides the connection as well
    cases closed with
    | true => exact ⟨rfl, .mk h⟩
    | false =>
      have hhijack := hR.hijack h answer
      exact ⟨hhijack.answer, .mk hhijack.left⟩

end Layers

/-! ### Compressed streams -/

namespace MemberStream

variable {τ : Type}

/-- Two streams and the sinks that they write to, each related to the other. -/
structure Beside {σ : Type} (T : τ → τ → Prop) (R : σ → σ → Prop) (p p' : τ × σ) : Prop where
  stream : T p.1 p'.1
  sink : R p.2 p'.2

variable [MemberStream τ]

/-- **Streams that no operation tells apart**, over sinks that no write tells apart. -/
structure Twins (T : τ → τ → Prop) : Prop where
  write : ∀ {s s'}, T s s' → ∀ {σ : Type} [Sink σ] {R : σ → σ → Prop}, Sink.MirrorsWrites R →
    ∀ {sink sink' : σ}, R sink sink' → ∀ data,
      Sink.Agree (Beside T R) (write s data sink) (write s' data sink')
  flush : ∀ {s s'}, T s s' → ∀ {σ : Type} [Sink σ] {R : σ → σ → Prop}, Sink.MirrorsWrites R →
    ∀ {sink sink' : σ}, R sink sink' → Sink.Agree (Beside T R) (flush s sink) (flush s' sink')
  finish : ∀ {s s'}, T s s' → ∀ {σ : Type} [Sink σ] {R : σ → σ → Prop}, Sink.MirrorsWrites R →
    ∀ {sink sink' : σ}, R sink sink' → Sink.Agree (Beside T R) (finish s sink) (finish s' sink')

/-- A stream cannot be told from itself. -/
theorem twins_eq : Twins (Eq : τ → τ → Prop) where
  write := by
    rintro s _ rfl σ _ R hR sink sink' h data
    have hwrite := write_mirrors hR h s data
    exact ⟨hwrite.answer, hwrite.left.answer, hwrite.left.left⟩
  flush := by
    rintro s _ rfl σ _ R hR sink sink' h
    have hflush := flush_mirrors hR h s
    exact ⟨hflush.answer, hflush.left.answer, hflush.left.left⟩
  finish := by
    rintro s _ rfl σ _ R hR sink sink' h
    have hfinish := finish_mirrors hR h s
    exact ⟨hfinish.answer, hfinish.left.answer, hfinish.left.left⟩

end MemberStream

/-! ### The layer that decides whether to compress -/

namespace GzipLayer

variable {τ ω : Type} {T : τ → τ → Prop} {R : ω → ω → Prop}

/-- Two compression layers with one memory and related streams around related sinks. -/
inductive Alike (T : τ → τ → Prop) (R : ω → ω → Prop) : GzipLayer τ ω → GzipLayer τ ω → Prop
  | mk {inner inner' : ω} {stream stream' : τ} {minSize : Nat} {buffer : Bytes}
    {status : Option Status} {decision : Decision} {hijacked : Bool}
    {commitFailure : Option StreamError} {reported : List Decision}
    (hs : T stream stream') (h : R inner inner') :
    Alike T R
      ⟨inner, stream, minSize, buffer, status, decision, hijacked, commitFailure, reported⟩
      ⟨inner', stream', minSize, buffer, status, decision, hijacked, commitFailure, reported⟩

variable {l l' : GzipLayer τ ω}

theorem Alike.hijacked (h : Alike T R l l') : l.hijacked = l'.hijacked := by
  obtain ⟨hs, h⟩ := h
  rfl

theorem Alike.sendStatus (h : Alike T R l l') (code : Status) :
    Alike T R (l.sendStatus code) (l'.sendStatus code) := by
  obtain ⟨hs, h⟩ := h
  exact .mk hs h

theorem Alike.report (h : Alike T R l l') (count : Nat) :
    Sink.Agree (Alike T R) (l.report count) (l'.report count) := by
  obtain ⟨hs, h⟩ := h
  rename_i stream stream' minSize buffer status decision hijacked commitFailure reported
  cases commitFailure <;> exact ⟨rfl, .mk hs h⟩

variable [Sink ω]

theorem Alike.passOn (hR : Sink.Mirrors R) (h : Alike T R l l') (data : Bytes) :
    Sink.Agree (Alike T R) (l.passOn data) (l'.passOn data) := by
  obtain ⟨hs, h⟩ := h
  have hwrite := hR.write h data
  exact ⟨hwrite.answer, .mk hs hwrite.left⟩

variable [MemberStream τ]

theorem Alike.release (hT : MemberStream.Twins T) (hR : Sink.Mirrors R) (h : Alike T R l l') :
    Alike T R l.release l'.release := by
  obtain ⟨hs, h⟩ := h
  rename_i stream stream' minSize buffer status decision hijacked commitFailure reported
  simp only [GzipLayer.release]
  split_ifs
  · exact .mk hs h
  · -- the buffer goes through the stream, or down as it is
    cases decision with
    | compress =>
      refine (hT.write hs hR.writes h buffer).elim fun result _ _ hleft => ?_
      obtain ⟨hs, hinner⟩ := hleft
      exact .mk hs hinner
    | _ =>
      refine (hR.writes.writeAll h buffer).elim fun result _ _ hinner => ?_
      exact .mk hs hinner

theorem Alike.commit (hT : MemberStream.Twins T) (hR : Sink.Mirrors R) (h : Alike T R l l') :
    Alike T R l.commit l'.commit := by
  obtain ⟨hs, h⟩ := h
  rename_i stream stream' minSize buffer status decision hijacked commitFailure reported
  cases decision with
  | pending =>
    simp only [GzipLayer.commit, hR.headers h]
    refine Alike.release hT hR (.mk hs (hR.sendStatus ?_ _))
    -- the headers are edited for a response that is compressed
    split
    · exact hR.setHeaders h _
    · exact h
  | _ => exact .mk hs h

theorem Alike.compressOn (hT : MemberStream.Twins T) (hR : Sink.Mirrors R) (h : Alike T R l l')
    (data : Bytes) :
    Sink.Agree (Alike T R) (l.compressOn data) (l'.compressOn data) := by
  obtain ⟨hs, h⟩ := h
  rename_i stream stream' minSize buffer status decision hijacked commitFailure reported
  simp only [GzipLayer.compressOn]
  refine (hT.write hs hR.writes h data).elim fun result _ _ hleft => ?_
  obtain ⟨hs, hinner⟩ := hleft
  cases result <;> exact ⟨rfl, .mk hs hinner⟩

theorem Alike.collect (hT : MemberStream.Twins T) (hR : Sink.Mirrors R) (h : Alike T R l l')
    (data : Bytes) :
    Sink.Agree (Alike T R) (l.collect data) (l'.collect data) := by
  obtain ⟨hs, h⟩ := h
  simp only [GzipLayer.collect]
  split_ifs
  · exact Alike.report (.mk hs h) _
  · exact Alike.report (Alike.commit hT hR (.mk hs h)) _

theorem Alike.write (hT : MemberStream.Twins T) (hR : Sink.Mirrors R) (h : Alike T R l l')
    (data : Bytes) :
    Sink.Agree (Alike T R) (l.write data) (l'.write data) := by
  obtain ⟨hs, h⟩ := h
  rename_i stream stream' minSize buffer status decision hijacked commitFailure reported
  simp only [GzipLayer.write]
  split_ifs
  · exact ⟨rfl, .mk hs h⟩
  · cases commitFailure with
    | some cause => exact ⟨rfl, .mk hs h⟩
    | none =>
      cases decision with
      | skip => exact Alike.passOn hR (.sendStatus (.mk hs h) 200) data
      | compress => exact Alike.compressOn hT hR (.sendStatus (.mk hs h) 200) data
      | pending => exact Alike.collect hT hR (.sendStatus (.mk hs h) 200) data

theorem Alike.flush (hT : MemberStream.Twins T) (hR : Sink.Mirrors R) (h : Alike T R l l') :
    Sink.Agree (Alike T R) l.flush l'.flush := by
  simp only [GzipLayer.flush, h.hijacked]
  split_ifs
  · exact ⟨rfl, h⟩
  · -- what follows depends on what the two layers have become with the decision
    have hcommit := h.commit hT hR
    generalize l.commit = c at hcommit ⊢
    generalize l'.commit = c' at hcommit ⊢
    obtain ⟨hs, h⟩ := hcommit
    rename_i stream stream' minSize buffer status decision hijacked commitFailure reported
    cases commitFailure with
    | some cause => exact ⟨rfl, .mk hs h⟩
    | none =>
      cases decision with
      | compress =>
        simp only
        refine (hT.flush hs hR.writes h).elim fun result _ _ hleft => ?_
        obtain ⟨hs, hinner⟩ := hleft
        cases result with
        | error cause => exact ⟨rfl, .mk hs hinner⟩
        | ok =>
          have hflush := hR.flush hinner
          exact ⟨hflush.answer, .mk hs hflush.left⟩
      | _ =>
        have hflush := hR.flush h
        exact ⟨hflush.answer, .mk hs hflush.left⟩

theorem mirrors (hT : MemberStream.Twins T) (hR : Sink.Mirrors R) :
    Sink.Mirrors (Alike T R : GzipLayer τ ω → GzipLayer τ ω → Prop)
    where
  headers := by
    rintro _ _ ⟨hs, h⟩
    exact hR.headers h
  setHeaders := by
    rintro _ _ ⟨hs, h⟩ headers
    exact .mk hs (hR.setHeaders h headers)
  sendStatus := fun h code => h.sendStatus code
  write := fun h data => h.write hT hR data
  flush := fun h => h.flush hT hR
  hijack := by
    rintro _ _ ⟨hs, h⟩ answer
    show Sink.Agree _ (GzipLayer.hijack _ answer) (GzipLayer.hijack _ answer)
    simp only [GzipLayer.hijack]
    refine (hR.hijack h answer).elim fun result _ _ hleft => ?_
    cases result <;> exact ⟨rfl, .mk hs hleft⟩

/-- **Closing** has the same outcome. -/
theorem Alike.close (hT : MemberStream.Twins T) (hR : Sink.Mirrors R) (h : Alike T R l l') :
    Sink.Agree (Alike T R) l.close l'.close := by
  simp only [GzipLayer.close, h.hijacked]
  split_ifs
  · exact ⟨rfl, h⟩
  · have hcommit := h.commit hT hR
    generalize l.commit = c at hcommit ⊢
    generalize l'.commit = c' at hcommit ⊢
    obtain ⟨hs, h⟩ := hcommit
    rename_i stream stream' minSize buffer status decision hijacked commitFailure reported
    cases commitFailure with
    | some cause => exact ⟨rfl, .mk hs h⟩
    | none =>
      cases decision with
      | compress =>
        simp only
        refine (hT.finish hs hR.writes h).elim fun result _ _ hleft => ?_
        obtain ⟨hs, hinner⟩ := hleft
        exact ⟨rfl, .mk hs hinner⟩
      | _ => exact ⟨rfl, .mk hs h⟩

/-- **Abandoning** leaves related layers. -/
theorem Alike.abandon (hT : MemberStream.Twins T) (hR : Sink.Mirrors R) (h : Alike T R l l') :
    Alike T R l.abandon l'.abandon := by
  obtain ⟨hs, h⟩ := h
  rename_i stream stream' minSize buffer status decision hijacked commitFailure reported
  cases decision with
  | compress =>
    cases hijacked with
    | true => exact .mk hs h
    | false =>
      simp only [GzipLayer.abandon]
      refine (hT.finish hs hR.writes h).elim fun result _ _ hleft => ?_
      obtain ⟨hs, hinner⟩ := hleft
      exact .mk hs hinner
  | _ => exact .mk hs h

/-- **The end of a layer**, however it is asked for. -/
theorem Alike.part (hT : MemberStream.Twins T) (hR : Sink.Mirrors R) (h : Alike T R l l')
    (how : Parting) :
    Sink.Agree (Alike T R) (l.part how) (l'.part how) := by
  cases how with
  | close =>
    have hclose := h.close hT hR
    exact ⟨congrArg some hclose.answer, hclose.left⟩
  | abandon => exact ⟨rfl, h.abandon hT hR⟩
  | drop => exact ⟨rfl, h⟩

end GzipLayer

end HttpPipeline
