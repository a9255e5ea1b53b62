import HttpPipeline.Proofs.Response.Decision
import HttpPipeline.Proofs.Response.Requests
import HttpPipeline.Response.Recorder
import Mathlib.Data.List.Permutation

/-!
# Taking the connection over behind a compression layer

A compression layer that holds a response back has sent nothing, so its connection can be taken
over at no cost. Once the decision has fallen a part of the response is with the client.

The states of a layer in the course of a response are those that calls, a close and an end after a
failure lead to (`GzipLayer.Lived`). In all of them the decision says what has reached the sink
below (`GzipLayer.lived_standing`): while it is pending nothing has but attempts to take the
connection over, and afterwards a status has.

A take-over is refused if the sink below refuses it, and for no other reason. The decision has no
part in it. So a layer may be taken over at any moment, and that moment is kept: the decision is
as it was, and nothing more reaches the sink (`GzipLayer.Parted`). If the decision was pending, it
stays so and the sink never gets any part of a response. If it had fallen, the response stays as
it was, which may be in the middle of a member (`GzipLayer.taken_over_compressing`).
-/

namespace HttpPipeline

namespace Traced

variable {σ : Type} [Sink σ]

/-- A status has reached the sink. -/
def HasStatus (t : Traced σ) : Prop := ∃ code, .status code ∈ t.arrivals

theorem hasStatus_outlasts : Sink.Outlasts .all (HasStatus : Traced σ → Prop) where
  setHeaders := fun h _ _ => h
  sendStatus := fun ⟨code, h⟩ _ => ⟨code, List.mem_append_left _ h⟩
  write := fun ⟨code, h⟩ _ => ⟨code, List.mem_append_left _ h⟩
  flush := fun _ _ ⟨code, h⟩ => ⟨code, List.mem_append_left _ h⟩
  hijack := fun _ _ ⟨code, h⟩ _ => ⟨code, List.mem_append_left _ h⟩

end Traced

namespace GzipLayer

variable {τ ω σ : Type} [MemberStream τ] [Sink ω] [Sink σ]

/-! ### The course of a response -/

/-- **The states of a layer** in the course of a response. -/
inductive Lived (first : GzipLayer τ ω) : GzipLayer τ ω → Prop
  | fresh : Lived first first
  | call {l : GzipLayer τ ω} (h : Lived first l) (call : Call) : Lived first (call.perform l).2
  | close {l : GzipLayer τ ω} (h : Lived first l) : Lived first l.close.2
  /-- The handler has failed. -/
  | abandon {l : GzipLayer τ ω} (h : Lived first l) : Lived first l.abandon

theorem Lived.performAll {first l : GzipLayer τ ω} (h : Lived first l) (calls : List Call) :
    Lived first (Call.performAll calls l).2 := by
  induction calls generalizing l with
  | nil => exact h
  | cons call calls ih => exact ih (h.call call)

/-! ### What the steps of a layer leave alone -/

/-- **A write** is refused, or goes on by the decision, or is collected while there is none. -/
theorem write_cases (l : GzipLayer τ ω) (data : Bytes) :
    (l.write data).2 = l ∨
      l.decision ≠ .pending ∧
        (∃ stream inner, (l.write data).2 = { l.sendStatus 200 with stream, inner }) ∨
      l.decision = .pending ∧ (l.write data).2 = ((l.sendStatus 200).collect data).2 := by
  unfold GzipLayer.write
  split_ifs
  · exact .inl rfl
  · split
    · exact .inl rfl
    · right
      cases hd : l.decision with
      | pending =>
        simp only [GzipLayer.sendStatus, hd]
        exact .inr ⟨trivial, trivial⟩
      | skip =>
        simp only [GzipLayer.sendStatus, hd]
        exact .inl ⟨by decide, _, _, rfl⟩
      | compress =>
        simp only [GzipLayer.sendStatus, hd, compressOn_snd]
        exact .inl ⟨by decide, _, _, rfl⟩

/-- **A flush** of a layer that has its connection is a commit, and some use of the stream and of
the sink below. -/
theorem flush_frame {l : GzipLayer τ ω} (h : l.hijacked = false) :
    ∃ stream inner, l.flush.2 = { l.commit with stream, inner } := by
  rw [GzipLayer.flush, h, if_neg Bool.false_ne_true]
  simp only
  split
  · exact ⟨_, _, rfl⟩
  · split
    · split <;> exact ⟨_, _, rfl⟩
    · exact ⟨_, _, rfl⟩

/-- So is a close. -/
theorem close_frame {l : GzipLayer τ ω} (h : l.hijacked = false) :
    ∃ stream inner, l.close.2 = { l.commit with stream, inner } := by
  rw [GzipLayer.close, h, if_neg Bool.false_ne_true]
  simp only
  split
  · exact ⟨_, _, rfl⟩
  · split <;> exact ⟨_, _, rfl⟩

/-- A layer that was taken over refuses to flush. -/
theorem flush_of_hijacked {l : GzipLayer τ ω} (h : l.hijacked = true) :
    l.flush = (.error .hijacked, l) :=
  if_pos h

/-- And closing it does nothing. -/
theorem close_of_hijacked {l : GzipLayer τ ω} (h : l.hijacked = true) : l.close = (.ok (), l) :=
  if_pos h

/-- So does abandoning it. -/
theorem abandon_of_hijacked {l : GzipLayer τ ω} (h : l.hijacked = true) : l.abandon = l := by
  unfold GzipLayer.abandon
  split
  · rename_i hkept
    exact absurd (hkept.symm.trans h) Bool.false_ne_true
  · rfl

/-! ### What the decision says -/

omit [MemberStream τ] in
/-- An attempt to take the connection over is no matter of the decision. -/
theorem hijack_decision (l : GzipLayer τ ω) (answer : Bytes) :
    (l.hijack answer).2.decision = l.decision := by
  unfold GzipLayer.hijack
  split <;> rfl

theorem hijack_arrivals (l : GzipLayer τ (Traced σ)) (answer : Bytes) :
    (l.hijack answer).2.inner.arrivals = l.inner.arrivals ++ [.hijack] :=
  congrArg Traced.arrivals (l.hijack_inner answer)

/-- Nothing has been decided, and nothing but attempts to take over has arrived below. -/
def Withheld (l : GzipLayer τ (Traced σ)) : Prop :=
  l.decision = .pending ∧ ∀ a ∈ l.inner.arrivals, a = .hijack

/-- The decision has fallen, and a status has arrived below. -/
def Committed (l : GzipLayer τ (Traced σ)) : Prop :=
  l.decision ≠ .pending ∧ l.inner.HasStatus

/-- A decision stands. -/
theorem decided_outlasts :
    Sink.Outlasts .all fun l : GzipLayer τ ω => l.decision ≠ .pending where
  setHeaders := fun h _ _ => h
  sendStatus := fun h _ => h
  write := by
    intro l hd data
    show (l.write data).2.decision ≠ .pending
    -- a write decides only where nothing was decided yet
    rcases l.write_cases data with hsame | ⟨-, stream, inner, hwritten⟩ | ⟨hpending, -⟩
    · rwa [hsame]
    · rw [hwritten]
      exact hd
    · exact absurd hpending hd
  flush := by
    intro _ l hd
    show l.flush.2.decision ≠ .pending
    cases hhijacked : l.hijacked with
    | true => rwa [flush_of_hijacked hhijacked]
    | false =>
      obtain ⟨stream, inner, hflushed⟩ := flush_frame hhijacked
      rw [hflushed]
      exact commit_ne_pending l
  hijack := by
    intro _ l hd answer
    exact (l.hijack_decision answer).trans_ne hd

/-- **No request** ends a commitment. -/
theorem committed_outlasts : Sink.Outlasts .all (Committed : GzipLayer τ (Traced σ) → Prop) :=
  decided_outlasts.and (GzipLayer.outlasts (fun _ _ => trivial) Traced.hasStatus_outlasts)

namespace Withheld

variable {l : GzipLayer τ (Traced σ)}

/-- **The decision commits.** -/
theorem commit (h : Withheld l) : Committed l.commit := by
  refine ⟨commit_ne_pending l, ?_⟩
  unfold GzipLayer.commit
  rw [h.1]
  -- the status goes down before the buffer, and nothing is taken back
  refine outlasts_release Traced.hasStatus_outlasts.writes ⟨l.status.getD 200, ?_⟩
  exact List.mem_append_right _ (List.mem_singleton_self _)

/-- A write that is collected may be the one that makes the decision fall. -/
theorem collect (h : Withheld l) (data : Bytes) :
    Withheld (l.collect data).2 ∨ Committed (l.collect data).2 := by
  unfold GzipLayer.collect
  simp only [report_snd]
  split_ifs
  · exact .inl h
  · exact .inr (commit (l := { l with buffer := l.buffer ++ data }) h)

/-- A write is refused or collected. -/
theorem write (h : Withheld l) (data : Bytes) :
    Withheld (l.write data).2 ∨ Committed (l.write data).2 := by
  rcases l.write_cases data with hsame | ⟨hdecided, -⟩ | ⟨-, hcollected⟩
  · rw [hsame]
    exact .inl h
  · exact absurd h.1 hdecided
  · rw [hcollected]
    exact collect (l := l.sendStatus 200) h data

/-- A flush is refused or makes the decision fall. -/
theorem flush (h : Withheld l) : Withheld l.flush.2 ∨ Committed l.flush.2 := by
  cases hhijacked : l.hijacked with
  | true =>
    rw [flush_of_hijacked hhijacked]
    exact .inl h
  | false =>
    rw [flush_commit hhijacked]
    exact .inr (committed_outlasts.flush trivial h.commit)

/-- A take-over is one more attempt. -/
theorem hijack (h : Withheld l) (answer : Bytes) : Withheld (l.hijack answer).2 := by
  refine ⟨(l.hijack_decision answer).trans h.1, ?_⟩
  rw [hijack_arrivals]
  exact List.forall_mem_append.mpr ⟨h.2, fun a ha => List.mem_singleton.mp ha⟩

end Withheld

/-- **What the decision says** outlasts every request. -/
theorem standing_outlasts :
    Sink.Outlasts .all fun l : GzipLayer τ (Traced σ) => Withheld l ∨ Committed l where
  setHeaders := fun h _ hedit => h.imp id (committed_outlasts.setHeaders · hedit)
  sendStatus := fun h code => h.imp id (committed_outlasts.sendStatus · code)
  write := fun h data =>
    h.elim (Withheld.write · data) fun h => .inr (committed_outlasts.write h data)
  flush := fun hflush _ h => h.elim Withheld.flush fun h => .inr (committed_outlasts.flush hflush h)
  hijack := fun hhijack _ h answer =>
    h.imp (Withheld.hijack · answer) (committed_outlasts.hijack hhijack · answer)

/-! ### The ends of a response -/

theorem close_hijacked (l : GzipLayer τ ω) : l.close.2.hijacked = l.hijacked := by
  cases hhijacked : l.hijacked with
  | true => rw [close_of_hijacked hhijacked, hhijacked]
  | false =>
    obtain ⟨stream, inner, hclosed⟩ := close_frame hhijacked
    rw [hclosed]
    exact (commit_hijacked l).trans hhijacked

theorem abandon_hijacked (l : GzipLayer τ ω) : l.abandon.hijacked = l.hijacked := by
  unfold GzipLayer.abandon
  split <;> rfl

namespace Committed

variable {l : GzipLayer τ (Traced σ)}

/-- What a stream writes when it ends takes nothing back. -/
theorem finish (h : Committed l) :
    Committed { l with
      stream := (MemberStream.finish l.stream l.inner).2.1
      inner := (MemberStream.finish l.stream l.inner).2.2 } :=
  ⟨h.1, MemberStream.finish_outlasts Traced.hasStatus_outlasts.writes h.2 l.stream⟩

theorem close (h : Committed l) : Committed l.close.2 := by
  unfold GzipLayer.close
  rw [commit_of_ne h.1]
  split_ifs
  · exact h
  · simp only
    split
    · exact h
    · split
      · exact h.finish
      · exact h

theorem abandon (h : Committed l) : Committed l.abandon := by
  unfold GzipLayer.abandon
  split
  · exact h.finish
  · exact h

end Committed

namespace Withheld

variable {l : GzipLayer τ (Traced σ)}

/-- The decision falls at the end, unless the connection is gone. -/
theorem close (h : Withheld l) : Withheld l.close.2 ∨ Committed l.close.2 := by
  cases hhijacked : l.hijacked with
  | true =>
    rw [close_of_hijacked hhijacked]
    exact .inl h
  | false =>
    rw [close_commit hhijacked]
    exact .inr h.commit.close

theorem abandon (h : Withheld l) : Withheld l.abandon := by
  unfold GzipLayer.abandon
  rw [h.1]
  exact h

end Withheld

/-- **The decision says what has been sent**, in every state of a layer. -/
theorem lived_standing {sink : σ} {stream : τ} {minSize : Nat}
    {l : GzipLayer τ (Traced σ)} (h : Lived (.around { sink } stream minSize) l) :
    Withheld l ∨ Committed l := by
  induction h with
  | fresh => exact .inl ⟨rfl, List.forall_mem_nil _⟩
  | call _ call ih => exact standing_outlasts.call ih call
  | close _ ih => exact ih.elim Withheld.close fun h => .inr h.close
  | abandon _ ih => exact ih.imp Withheld.abandon Committed.abandon

/-! ### The moment of a take-over -/

/-- Without a take-over the layer keeps its connection. -/
theorem unhijacked_invariant :
    Sink.Invariant fun l : GzipLayer τ ω => l.hijacked = false where
  setHeaders := fun h _ => h
  sendStatus := fun h _ => h
  write := by
    intro l h data
    show (l.write data).2.hijacked = false
    -- neither a write nor its decision takes anything over
    rcases l.write_cases data with hsame | ⟨-, stream, inner, hwritten⟩ | ⟨-, hcollected⟩
    · rwa [hsame]
    · rw [hwritten]
      exact h
    · rw [hcollected, GzipLayer.collect, report_snd]
      split_ifs
      · exact h
      · exact (commit_hijacked _).trans h
  flush := by
    intro l h
    show l.flush.2.hijacked = false
    obtain ⟨stream, inner, hflushed⟩ := flush_frame h
    rw [hflushed]
    exact (commit_hijacked l).trans h

omit [MemberStream τ] in
/-- **A take-over** succeeds if the sink below lets it, whatever the decision. -/
theorem hijack_hijacked (l : GzipLayer τ ω) (answer : Bytes) :
    (l.hijack answer).2.hijacked = true ↔
      l.hijacked = true ∨ ∃ waiting, (Sink.hijack l.inner answer).1 = .ok waiting := by
  unfold GzipLayer.hijack
  split <;> rename_i heq <;> simp [heq]

/-- `l` is a layer that has been taken over in the state `m`. Its decision has not changed since,
and nothing has arrived below but attempts to take the connection over, of which the first
succeeded. -/
structure Parted (m l : GzipLayer τ (Traced σ)) : Prop where
  before : m.hijacked = false
  granted : ∃ answer waiting, (Sink.hijack m.inner answer).1 = .ok waiting
  hijacked : l.hijacked = true
  decision : l.decision = m.decision
  arrivals : ∃ n, l.inner.arrivals = m.inner.arrivals ++ List.replicate (n + 1) .hijack

namespace Parted

variable {m l : GzipLayer τ (Traced σ)}

/-- The take-over itself. -/
theorem hijack (hbefore : m.hijacked = false) {answer : Bytes}
    (hafter : (m.hijack answer).2.hijacked = true) : Parted m (m.hijack answer).2 where
  before := hbefore
  granted := ⟨answer, ((m.hijack_hijacked answer).mp hafter).resolve_left (by simp [hbefore])⟩
  hijacked := hafter
  decision := m.hijack_decision answer
  arrivals := ⟨0, m.hijack_arrivals answer⟩

/-- **Nothing more is sent.** A layer that was taken over refuses writes and flushes. -/
theorem outlasts : Sink.Outlasts .all (Parted m) where
  setHeaders := fun h _ _ => ⟨h.before, h.granted, h.hijacked, h.decision, h.arrivals⟩
  sendStatus := fun h _ => ⟨h.before, h.granted, h.hijacked, h.decision, h.arrivals⟩
  write := by
    intro l h data
    show Parted m (l.write data).2
    rw [GzipLayer.write, if_pos h.hijacked]
    exact h
  flush := by
    intro _ l h
    show Parted m l.flush.2
    rw [flush_of_hijacked h.hijacked]
    exact h
  hijack := by
    intro _ l h answer
    -- a further attempt to take over is passed on; nothing else is
    obtain ⟨n, harrivals⟩ := h.arrivals
    refine ⟨h.before, h.granted, (l.hijack_hijacked answer).mpr (.inl h.hijacked),
      (l.hijack_decision answer).trans h.decision, n + 1, ?_⟩
    calc (l.hijack answer).2.inner.arrivals
        = l.inner.arrivals ++ [.hijack] := l.hijack_arrivals answer
      _ = m.inner.arrivals ++ (List.replicate (n + 1) .hijack ++ [.hijack]) := by
          rw [harrivals, List.append_assoc]
      _ = m.inner.arrivals ++ List.replicate (n + 1 + 1) .hijack := by
          rw [← List.replicate_succ']

theorem close (h : Parted m l) : Parted m l.close.2 := by
  rw [close_of_hijacked h.hijacked]
  exact h

theorem abandon (h : Parted m l) : Parted m l.abandon := by
  rw [abandon_of_hijacked h.hijacked]
  exact h

end Parted

/-- A call after which a layer is taken over, and was not before, is the take-over. -/
theorem eq_hijack_of_perform {l : GzipLayer τ ω} (h : l.hijacked = false) {call : Call}
    (hafter : (call.perform l).2.hijacked = true) : ∃ answer, call = .hijack answer := by
  by_contra hother
  have hkept := unhijacked_invariant.perform h call fun answer heq => absurd ⟨answer, heq⟩ hother
  exact Bool.false_ne_true (hkept.symm.trans hafter)

/-- **Every take-over has a moment.** -/
theorem exists_parted {first l : GzipLayer τ (Traced σ)} (hfirst : first.hijacked = false)
    (h : Lived first l) (hhijacked : l.hijacked = true) : ∃ m, Lived first m ∧ Parted m l := by
  induction h with
  | fresh => exact absurd (hfirst.symm.trans hhijacked) Bool.false_ne_true
  | @call l hl call ih =>
    cases hbefore : l.hijacked with
    | true =>
      obtain ⟨m, hm, hparted⟩ := ih hbefore
      exact ⟨m, hm, Parted.outlasts.call hparted call⟩
    | false =>
      -- this call is the take-over
      obtain ⟨answer, rfl⟩ := eq_hijack_of_perform hbefore hhijacked
      exact ⟨l, hl, Parted.hijack hbefore hhijacked⟩
  | @close l _ ih =>
    rw [close_hijacked] at hhijacked
    obtain ⟨m, hm, hparted⟩ := ih hhijacked
    exact ⟨m, hm, hparted.close⟩
  | @abandon l _ ih =>
    rw [abandon_hijacked] at hhijacked
    obtain ⟨m, hm, hparted⟩ := ih hhijacked
    exact ⟨m, hm, hparted.abandon⟩

/-- **When a connection is taken over.** In every state of a layer, over any sink:

* the decision is pending as long as nothing but attempts to take the connection over has reached
  the sink, and has fallen as soon as a status has;
* a take-over is granted if the sink grants it, whatever the decision;
* a layer that was taken over has its decision from that moment, pending or not, and nothing but
  further attempts has reached the sink since. -/
theorem lived_hijacked (sink : σ) (stream : τ) (minSize : Nat)
    {l : GzipLayer τ (Traced σ)} (h : Lived (.around { sink } stream minSize) l) :
    (l.decision = .pending ∧ (∀ a ∈ l.inner.arrivals, a = .hijack) ∨
      l.decision ≠ .pending ∧ ∃ code, .status code ∈ l.inner.arrivals) ∧
    (∀ answer, (Sink.hijack l answer).2.hijacked = true ↔
      l.hijacked = true ∨ ∃ waiting, (Sink.hijack l.inner answer).1 = .ok waiting) ∧
    (l.hijacked = true → ∃ m, Lived (.around { sink } stream minSize) m ∧ Parted m l) :=
  ⟨lived_standing h, l.hijack_hijacked, exists_parted rfl h⟩

/-- A take-over that comes first. The decision is pending for ever. -/
theorem lived_hijacked_first :
    let layer : GzipLayer Stored (Traced Recorder) :=
      .around { sink := .withConnection [7] } (.new 6) 4
    let l :=
      (Call.performAll [.status 101, .hijack [], .write [1, 2, 3, 4], .flush] layer).2.close.2
    Lived layer l ∧ l.hijacked = true ∧ l.decision = .pending ∧
      ∃ m, Lived layer m ∧ Parted m l := by
  intro layer l
  have hlived : Lived layer l :=
    (Lived.fresh.performAll [.status 101, .hijack [], .write [1, 2, 3, 4], .flush]).close
  have hhijacked : l.hijacked = true := by decide
  exact ⟨hlived, hhijacked, by decide, (lived_hijacked _ _ _ hlived).2.2 hhijacked⟩

/-- A take-over after the decision for compression. The layer is hijacked, its decision is not
pending, and of the member the sink has the header and never gets more. -/
theorem taken_over_compressing :
    let hello : Bytes := [104, 101, 108, 108, 111]
    let sink : Recorder := .withConnection []
    let layer := GzipLayer.around ({ sink } : Traced Recorder) (.new 6 : Stored) 4
    let l := (Call.performAll [.write hello, .hijack []] layer).2
    Lived layer l ∧ l.hijacked = true ∧ l.decision = .compress ∧ l.close.1 = .ok () ∧
      l.close.2.inner.arrivals = [.status 200, .bytes Member.header, .hijack] := by
  intro hello sink layer l
  have hlived : Lived layer l := Lived.fresh.performAll [.write hello, .hijack []]
  obtain ⟨headers, hwrite⟩ : ∃ headers, (Sink.write layer hello).2 =
      { inner :=
          { sink :=
              { headers, sent := some ⟨200, headers⟩, body := Member.header, connection := some [] }
            arrivals := [.status 200, .bytes Member.header] }
        stream :=
          { level := 6, encoder := ⟨hello, false⟩, checksum := Crc32.start.update hello
            length := 5, headerWritten := true }
        minSize := 4, status := some 200, decision := .compress, reported := [.compress] } := by
    -- the decision looks at the whole text, so it is computed apart from the rest
    have hdecide : GzipLayer.decide {} 200 4 hello = .compress := by decide +kernel
    refine ⟨compressedHeaders {} hello, ?_⟩
    simp only [Sink.write, GzipLayer.write, layer, sink, Recorder.withConnection, around,
      GzipLayer.sendStatus, collect, GzipLayer.commit, Sink.headers, Option.getD, List.nil_append,
      hdecide]
    generalize compressedHeaders {} hello = headers
    cbv
  have hhijack : l = (Sink.hijack (Sink.write layer hello).2 []).2 := by
    simp only [l, Call.performAll, Call.perform]
  rw [hwrite] at hhijack
  clear_value l
  refine ⟨hlived, ?_⟩
  rw [hhijack]
  exact ⟨rfl, rfl, rfl, rfl⟩

end GzipLayer

end HttpPipeline
