import HttpPipeline.Proofs.Response.Calls
import HttpPipeline.Proofs.Response.GzipLayer
import HttpPipeline.Response.Scripted
import HttpPipeline.Response.Traced

/-!
# Compression over sinks that never fail for good

A sink never fails for good if each of its writes takes some of what it is offered or has to
be repeated, now and after whatever else is asked of it (`Sink.NeverFails`). It may take one
byte at a time, and it may refuse every flush.

Over such a sink, whatever is written to a compression layer arrives: as it is, or as one
member (`GzipLayer.close_delivers`). What arrived is read off the record of a `Traced` sink,
whose ledger is that record (`Traced.Account`), so that nothing has to be known about what
the sink itself keeps.
-/

namespace HttpPipeline

namespace Sink

variable {σ : Type} [Sink σ]

/-- One attempt to write that is no failure. Some of an offer is taken, unless it is empty. -/
def Succeeds (P : σ → Prop) (data : Bytes) : Attempt × σ → Prop
  | (.accepted count, s) => count ≤ data.length ∧ (data ≠ [] → 0 < count) ∧ P s
  | (.interrupted _, s) => P s
  | (.failed _, _) => False

/-- A property of states in which no write fails, and that no request ends. -/
structure Reliable (P : σ → Prop) : Prop where
  setHeaders : ∀ {s}, P s → ∀ headers, P (Sink.setHeaders s headers)
  sendStatus : ∀ {s}, P s → ∀ code, P (Sink.sendStatus s code)
  write : ∀ {s}, P s → ∀ data, Succeeds P data (Sink.write s data)
  flush : ∀ {s}, P s → P (Sink.flush s).2

/-- What a write leaves does not fail, either. -/
theorem Reliable.write_kept {P : σ → Prop} (hP : Reliable P) {s : σ} (hs : P s) (data : Bytes) :
    P (Sink.write s data).2 := by
  have hsucceeds := hP.write hs data
  rcases heq : Sink.write s data with ⟨count | message | cause, s'⟩
  · rw [heq] at hsucceeds
    exact hsucceeds.2.2
  · rw [heq] at hsucceeds
    exact hsucceeds
  · rw [heq] at hsucceeds
    exact hsucceeds.elim

/-- **Never failing for good.** -/
def NeverFails (s : σ) : Prop := ∃ P : σ → Prop, Reliable P ∧ P s

end Sink

namespace ScriptedSink

/-- **A willing sink** is told to take something at each attempt to write, or to be asked again. -/
def Willing (s : ScriptedSink) : Prop :=
  ∀ x ∈ s.writes, (∃ most, x = .accept (most + 1)) ∨ ∃ message, x = .interrupt message

/-- A willing sink does not fail for good, and a flush does the same every time. -/
theorem reliable (onFlush : ScriptedFlush) :
    Sink.Reliable fun s : ScriptedSink => s.onFlush = onFlush ∧ s.Willing where
  setHeaders := fun hs _ => hs
  sendStatus := by
    intro s hs code
    show (s.sendStatus code).onFlush = _ ∧ ∀ x ∈ (s.sendStatus code).writes, _
    unfold ScriptedSink.sendStatus
    split <;> exact hs
  write := by
    rintro s ⟨hflush, hs⟩ data
    show Sink.Succeeds _ data (s.write data)
    unfold ScriptedSink.write
    unfold Willing at hs
    -- by the answer that is next: only a failure would break the promise, and none is left
    split
    · -- once it is not told what to do, it takes everything
      exact ⟨Nat.le_refl _, List.length_pos_of_ne_nil, hflush, hs⟩
    · rename_i most later heq
      rw [heq] at hs
      obtain ⟨m, hm⟩ | ⟨message, hm⟩ := hs _ List.mem_cons_self
      · cases hm
        refine ⟨Nat.min_le_right _ _, fun hne => ?_, hflush,
          fun x hx => hs x (List.mem_cons_of_mem _ hx)⟩
        exact Nat.lt_min.mpr ⟨Nat.succ_pos m, List.length_pos_of_ne_nil hne⟩
      · exact absurd hm (by simp)
    · rename_i message later heq
      rw [heq] at hs
      exact ⟨hflush, fun x hx => hs x (List.mem_cons_of_mem _ hx)⟩
    · rename_i cause later heq
      rw [heq] at hs
      obtain ⟨m, hm⟩ | ⟨message, hm⟩ := hs _ List.mem_cons_self
      · exact absurd hm (by simp)
      · exact absurd hm (by simp)
  flush := by
    intro s hs
    show s.flush.2.onFlush = _ ∧ ∀ x ∈ s.flush.2.writes, _
    unfold ScriptedSink.flush
    split <;> exact hs

/-- A sink that neither fails nor takes nothing when it is told what to do never fails for
good. -/
theorem neverFails {s : ScriptedSink}
    (h : ∀ x ∈ s.writes, (∃ most, x = .accept (most + 1)) ∨ ∃ message, x = .interrupt message) :
    Sink.NeverFails s :=
  ⟨_, reliable s.onFlush, rfl, h⟩

end ScriptedSink

namespace Traced

variable {σ : Type} {P : σ → Prop}

/-- **The ledger of a record**: the body is what arrived. -/
def Account (P : σ → Prop) (k : Ledger) (t : Traced σ) : Prop :=
  t.body = k.written ∧ P t.sink

/-- What one more arrival adds to the body. -/
theorem body_note (t : Traced σ) (a : Arrival) (s : σ) :
    (t.note a s).body = t.body ++ match a with | .bytes accepted => accepted | _ => [] := by
  cases a <;> simp [body, note]

variable [Sink σ]

/-- **The record of a reliable sink is a ledger.** -/
theorem keeps (hP : Sink.Reliable P) : Sink.Keeps (Account P) where
  setHeaders := fun h headers => ⟨h.1, hP.setHeaders h.2 headers⟩
  sendFinal := by
    intro k t h code _
    refine ⟨?_, hP.sendStatus h.2 code⟩
    show (t.note _ _).body = _
    rw [body_note, h.1]
    exact List.append_nil _
  sendInterim := by
    intro k t h code _
    refine .inl ⟨?_, hP.sendStatus h.2 code⟩
    show (t.note _ _).body = _
    rw [body_note, h.1]
    exact List.append_nil _
  write := by
    intro k t h data
    -- the sink takes what the account adds, and a sink that never fails never stops here
    have hsucceeds := hP.write h.2 data
    show Sink.Taken (Account P) k data (t.write data)
    rcases heq : Sink.write t.sink data with ⟨attempt, s⟩
    rw [heq] at hsucceeds
    simp only [Traced.write, heq]
    cases attempt with
    | accepted count =>
      obtain ⟨hle, hpos, hs⟩ := hsucceeds
      refine ⟨hle, hpos, ?_, hs⟩
      rw [body_note, h.1]
      rfl
    | interrupted message =>
      refine .inl ⟨?_, hsucceeds⟩
      rw [body_note, h.1]
      exact List.append_nil _
    | failed cause => exact hsucceeds
  flush := by
    intro k t h
    have hs := hP.flush h.2
    -- the body is the same whether the flush is refused or not
    have haccount : Account P k.settle t.flush.2 := by
      refine ⟨?_, hs⟩
      show (t.note _ _).body = _
      rw [body_note, h.1]
      exact List.append_nil _
    show Sink.Flushed (Account P) k t.flush
    rcases heq : t.flush with ⟨result, t'⟩
    rw [heq] at haccount
    cases result with
    | ok => exact haccount
    | error fault => exact .inr haccount

/-- The record says nothing about the head. -/
theorem prompt (hP : Sink.Reliable P) : Sink.Prompt (Account P) := by
  intro t h code hcode
  exact (keeps hP).sendFinal h hcode

end Traced

namespace GzipLayer

variable {ε σ : Type} [Deflater ε] [Sink σ]

/-- **A layer with a new stream** delivers what the calls report as written. -/
theorem around_delivers (hε : Deflater.EndsDecodable ε) {sink : σ} (hsink : Sink.NeverFails sink)
    (level minSize : Nat) (calls : List Call) (hcalls : ∀ call ∈ calls, call.isPlain = true) :
    let layer : GzipLayer (GzipStream ε) (Traced σ) := .around { sink } (.new level) minSize
    let written := Call.allReported calls (Call.performAll calls layer).1
    ∃ l', (Call.performAll calls layer).2.close = (.ok (), l') ∧
      (l'.decision = .compress ∧ Member.Holds l'.inner.body written ∨
        l'.decision = .skip ∧ l'.inner.body = written) := by
  intro layer written
  obtain ⟨P, hP, hs⟩ := hsink
  have hR := Traced.keeps hP
  have hprompt := Traced.prompt hP
  have hstart : Relates (Traced.Account P) {} layer := relates_around ⟨rfl, hs⟩ level minSize
  obtain ⟨k, hk, hwritten⟩ := Call.performAll_reported (keeps hR hprompt) calls hcalls hstart
  obtain ⟨l', hclose, hended⟩ := hk.close hε hR hprompt
  refine ⟨l', hclose, ?_⟩
  replace hwritten : k.settle.written = written := hwritten
  cases hended with
  | plain hdecision _ j hj hsettle =>
    refine .inr ⟨hdecision, ?_⟩
    rw [hj.1, ← hwritten, hsettle]
    rfl
  | member hdecision _ head body hbody hj =>
    refine .inl ⟨hdecision, ?_⟩
    rw [hj.1, ← hwritten]
    exact hbody

/-- **Nothing is lost, doubled or changed in order.** Let a stream from a pool be put in front
of a sink that never fails for good, let any header edits, statuses, writes and flushes
follow, and then the end. Ending succeeds. If the decision fell for compression, what arrived
is one member that holds all that the calls reported as written; otherwise it is just that. -/
theorem close_delivers (hε : Deflater.EndsDecodable ε) {pool : EncoderPool (GzipStream ε)}
    (hpool : pool.Reachable) {sink : σ} (hsink : Sink.NeverFails sink) (minSize : Nat)
    (calls : List Call) (hcalls : ∀ call ∈ calls, call.isPlain = true) :
    let layer := GzipLayer.around ({ sink } : Traced σ) pool.acquire.1 minSize
    let written := Call.allReported calls (Call.performAll calls layer).1
    ∃ l', (Call.performAll calls layer).2.close = (.ok (), l') ∧
      (l'.decision = .compress ∧ Member.Holds l'.inner.body written ∨
        l'.decision = .skip ∧ l'.inner.body = written) := by
  obtain ⟨level, hnew⟩ := hpool.acquire_new
  rw [hnew]
  exact around_delivers hε hsink level minSize calls hcalls

/-- A sink that takes three bytes, has to be asked again, takes one byte and so on, and that
refuses to flush; the buffer is full with the second write. -/
theorem close_delivers_short :
    let sink : ScriptedSink := { writes := [.accept 3, .interrupt "again", .accept 1] }
    let calls : List Call := [.status 200, .write [1, 2], .writeAll [3, 4, 5], .flush, .write [6]]
    let pool : EncoderPool Stored := .ofSettings 6 1
    let layer := GzipLayer.around ({ sink } : Traced ScriptedSink) pool.acquire.1 4
    let written := Call.allReported calls (Call.performAll calls layer).1
    ∃ l', (Call.performAll calls layer).2.close = (.ok (), l') ∧
      (l'.decision = .compress ∧ Member.Holds l'.inner.body written ∨
        l'.decision = .skip ∧ l'.inner.body = written) :=
  close_delivers (Deflater.endsDecodable StoredBlocks) (.made 6 1)
    (ScriptedSink.neverFails (by simp)) 4 _ (by decide)

end GzipLayer

end HttpPipeline
