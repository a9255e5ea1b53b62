import HttpPipeline.Proofs.Response.Falling
import HttpPipeline.Proofs.Response.Heads
import HttpPipeline.Response.HeadLog
import Mathlib.Data.List.Induction

/-!
# The head that a compression layer gives

Headers may be edited at any time, and a compression layer edits them too. What the client sees are
the headers that stand when the status goes down. A layer gives one status, at the moment of its
decision, and the head that it makes then is a matter of that moment: the live headers as they are
if the response is not compressed, and otherwise the live headers with an encoding and without a
length (`GzipLayer.Dresses`).

To speak of the moment, the requests to a layer and the ends of a response are listed one by one
(`GzipLayer.Operation`). The operation with which the decision falls splits the list in two. One
operation says what becomes of a layer that waits (`Operation.apply_waiting`)
and that nothing changes for one that has decided (`Operation.apply_decided`); the run follows
(`GzipLayer.after_heads`, `GzipLayer.gives_head`).

What is declared is judged by the first value of the content type. A type in a value that is no
visible text, or behind an empty value, does not count as declared, and the type that the body looks
like takes its place (`GzipLayer.replaces_declared`).
-/

namespace HttpPipeline

namespace GzipLayer

variable {τ ω σ : Type} [MemberStream τ] [Sink ω] [Sink σ]

/-! ### Operations -/

/-- **What is done to a layer**: a request is made of it, or the response ends. -/
inductive Operation
  | setHeaders (headers : Headers)
  | sendStatus (code : Status)
  | write (data : Bytes)
  | flush
  | hijack (answer : Bytes)
  | close
  | abandon

/-- The bytes that an operation brings. -/
def Operation.data : Operation → Bytes
  | .write data => data
  | _ => []

/-- The layer after an operation. -/
def Operation.apply (operation : Operation) (l : GzipLayer τ ω) : GzipLayer τ ω :=
  match operation with
  | .setHeaders headers => Sink.setHeaders l headers
  | .sendStatus code => Sink.sendStatus l code
  | .write data => (Sink.write l data).2
  | .flush => (Sink.flush l).2
  | .hijack answer => (Sink.hijack l answer).2
  | .close => l.close.2
  | .abandon => l.abandon

/-- The layer after some operations. -/
def after (l : GzipLayer τ ω) (operations : List Operation) : GzipLayer τ ω :=
  operations.foldl (fun l operation => operation.apply l) l

theorem after_concat (l : GzipLayer τ ω) (operations : List Operation) (operation : Operation) :
    l.after (operations ++ [operation]) = operation.apply (l.after operations) :=
  List.foldl_concat _ _ _ _

/-! ### The heads that go down -/

/-- The head that a layer gives if its decision falls. -/
def nextHead (l : GzipLayer τ ω) : Head := ⟨l.status.getD 200, Sink.headers l.dressed⟩

variable {l : GzipLayer τ (HeadLog σ)}

/-- **A layer that has decided** sends no more heads, whatever is done to it. -/
theorem Operation.apply_decided (hd : l.decision ≠ .pending) (operation : Operation) :
    (operation.apply l).decision = l.decision ∧
      (operation.apply l).inner.heads = l.inner.heads := by
  have hwrites : Sink.OutlastsWrites fun w : HeadLog σ => w.heads = l.inner.heads :=
    fun _ h _ => h
  cases operation with
  | setHeaders headers => exact ⟨rfl, rfl⟩
  | sendStatus code => exact ⟨rfl, rfl⟩
  | write data => exact write_below hwrites hd rfl data
  | flush => exact flush_below hwrites id hd rfl
  | hijack answer =>
    refine ⟨l.hijack_decision answer, ?_⟩
    show (Sink.hijack l answer).2.inner.heads = _
    rw [hijack_inner]
    rfl
  | close => exact close_below hwrites hd rfl
  | abandon => exact abandon_below hwrites rfl

/-- **The decision falls**, and one head goes down. -/
theorem commit_heads (hd : l.decision = .pending) :
    l.commit.decision = l.due ∧ l.commit.inner.heads = l.dressed.heads ++ [l.nextHead] :=
  commit_below (P := fun w => w.heads = l.dressed.heads ++ [l.nextHead]) (fun _ h _ => h) hd rfl

omit [MemberStream τ] in
theorem dressed_heads (l : GzipLayer τ (HeadLog σ)) : l.dressed.heads = l.inner.heads := by
  unfold dressed
  split <;> rfl

/-- `l` came of a layer that waited, by an operation that brought `data`. It waits still and has
sent nothing, or the decision was due with the data and a head went down. -/
def Advanced (m : GzipLayer τ (HeadLog σ)) (data : Bytes) (l : GzipLayer τ (HeadLog σ)) : Prop :=
  l.decision = .pending ∧ l.inner.heads = m.inner.heads ∨
    l.decision = (m.held data).due ∧ l.inner.heads = m.inner.heads ++ [(m.held data).nextHead]

omit [MemberStream τ] in
/-- Whether the status of a first write is remembered or implied makes no difference. -/
theorem held_nil (m : GzipLayer τ (HeadLog σ)) :
    (m.held []).due = m.due ∧ (m.held []).nextHead = m.nextHead := by
  have hbuffer : m.buffer ++ [] = m.buffer := List.append_nil _
  have hdue : (m.held []).due = m.due := by
    simp only [due, held, sendStatus, hbuffer, Option.getD_some]
  refine ⟨hdue, ?_⟩
  unfold nextHead dressed
  rw [hdue]
  simp only [held, sendStatus, hbuffer, Option.getD_some]

/-- **An operation on a layer that waits.** -/
theorem Operation.apply_waiting (hd : l.decision = .pending) (operation : Operation) :
    Advanced l operation.data (operation.apply l) := by
  -- what becomes of a layer that commits with nothing more in its buffer
  have hcommits : Advanced l [] l.commit := by
    obtain ⟨hdue, hhead⟩ := held_nil l
    obtain ⟨hdecision, hheads⟩ := commit_heads hd
    rw [dressed_heads] at hheads
    exact .inr ⟨hdecision.trans hdue.symm, hheads.trans (by rw [hhead])⟩
  -- what a flush or a close does after its commit sends no further head
  have hafter {l' : GzipLayer τ (HeadLog σ)} (h : l'.decision = l.commit.decision ∧
      l'.inner.heads = l.commit.inner.heads) : Advanced l [] l' := by
    unfold Advanced
    rwa [h.1, h.2]
  have hdecided := commit_ne_pending l
  cases operation with
  | setHeaders headers => exact .inl ⟨hd, rfl⟩
  | sendStatus code => exact .inl ⟨hd, rfl⟩
  | write data =>
    show Advanced l data (l.write data).2
    rcases l.write_cases data with hsame | ⟨hfallen, -⟩ | ⟨-, hcollected⟩
    · rw [hsame]
      exact .inl ⟨hd, rfl⟩
    · exact absurd hd hfallen
    · rw [hcollected, collect, report_snd]
      show Advanced l data (if (l.held data).buffer.length < _ then l.held data
        else (l.held data).commit)
      split_ifs
      · exact .inl ⟨hd, rfl⟩
      · have hheads := commit_heads (l := l.held data) hd
        rw [dressed_heads] at hheads
        exact .inr hheads
  | flush =>
    show Advanced l [] l.flush.2
    cases hhijacked : l.hijacked with
    | true =>
      rw [flush_of_hijacked hhijacked]
      exact .inl ⟨hd, rfl⟩
    | false =>
      rw [flush_commit hhijacked]
      exact hafter (Operation.apply_decided hdecided .flush)
  | hijack answer =>
    refine .inl ⟨(l.hijack_decision answer).trans hd, ?_⟩
    show (Sink.hijack l answer).2.inner.heads = _
    rw [hijack_inner]
    rfl
  | close =>
    show Advanced l [] l.close.2
    cases hhijacked : l.hijacked with
    | true =>
      rw [close_of_hijacked hhijacked]
      exact .inl ⟨hd, rfl⟩
    | false =>
      rw [close_commit hhijacked]
      exact hafter (Operation.apply_decided hdecided .close)
  | abandon =>
    show Advanced l [] l.abandon
    have hsame : l.abandon = l := by
      unfold GzipLayer.abandon
      rw [hd]
    rw [hsame]
    exact .inl ⟨hd, rfl⟩

/-- **The moment is one of the operations**: nothing went down before it, and nothing after. -/
theorem after_heads {first : GzipLayer τ (HeadLog σ)} (hfirst : first.decision = .pending)
    (hnone : first.inner.heads = []) (operations : List Operation) :
    (first.after operations).decision = .pending ∧ (first.after operations).inner.heads = [] ∨
    ∃ earlier operation later, operations = earlier ++ operation :: later ∧
      (first.after earlier).decision = .pending ∧
      (operation.apply (first.after earlier)).decision = (first.after operations).decision ∧
      (first.after operations).decision = ((first.after earlier).held operation.data).due ∧
      (first.after operations).inner.heads
        = [((first.after earlier).held operation.data).nextHead] := by
  induction operations using List.reverseRecOn with
  | nil => exact .inl ⟨hfirst, hnone⟩
  | append_singleton operations operation ih =>
    rw [after_concat]
    rcases ih with ⟨hd, hheads⟩ | ⟨earlier, moment, later, rfl, hd, hfalls, hdue, hheads⟩
    · rcases Operation.apply_waiting hd operation with ⟨hstill, hsame⟩ | ⟨hdue, hhead⟩
      · exact .inl ⟨hstill, hsame.trans hheads⟩
      · refine .inr ⟨operations, operation, [], rfl, hd, rfl, hdue, ?_⟩
        rw [hhead, hheads, List.nil_append]
    · have hdecided : (first.after (earlier ++ moment :: later)).decision ≠ .pending := by
        rw [hdue]
        exact due_ne_pending _
      obtain ⟨hsame, hkept⟩ := Operation.apply_decided hdecided operation
      refine .inr ⟨earlier, moment, later ++ [operation], ?_, hd, ?_, ?_, ?_⟩
      · rw [List.append_assoc, List.cons_append]
      · rw [hsame, hfalls]
      · rw [hsame, hdue]
      · rw [hkept, hheads]

/-! ### The headers of a head -/

omit [MemberStream τ] [Sink ω] [Sink σ] in
/-- **What counts as declared**: a first value that is visible and not empty. -/
theorem declaredType?_isSome (headers : Headers) :
    (declaredType? headers).isSome = true ↔
      ∃ value, headers.get? "content-type" = some value ∧ value ≠ [] ∧
        value.all isVisibleByte = true := by
  unfold declaredType? Headers.text?
  cases headers.get? "content-type" with
  | none => simp
  | some value =>
    simp only [Option.bind_some, Option.some.injEq, exists_eq_left', visibleText?]
    split_ifs with hvisible
    · simp only [hvisible, and_true]
      cases value <;> simp [Bytes.toAscii]
    · simp only [hvisible, Option.filter_none, Option.isSome_none, Bool.false_eq_true, and_false]

/-- **The headers `sent` with a compressed response**, given the live headers of the moment and the
bytes that were held back. -/
structure Dresses (live : Headers) (buffer : Bytes) (sent : Headers) : Prop where
  encoding : sent.values "content-encoding" = [Bytes.ofString "gzip"]
  length : sent.values "content-length" = []
  /-- A type that is declared in the first value stays, with all values that follow it. -/
  declared : ∀ value, live.get? "content-type" = some value → value ≠ [] →
    value.all isVisibleByte = true → sent.values "content-type" = live.values "content-type"
  guessed : (∀ value, live.get? "content-type" = some value →
      value = [] ∨ value.all isVisibleByte = false) →
    sent.values "content-type" = [Bytes.ofString (Sniff.detect buffer)]
  others : ∀ name ∉ ["content-type", "content-encoding", "content-length"],
    sent.values name = live.values name

omit [MemberStream τ] [Sink ω] [Sink σ] in
theorem dresses_compressedHeaders (live : Headers) (buffer : Bytes) :
    Dresses live buffer (compressedHeaders live buffer) where
  encoding := compressedHeaders_encoding live buffer
  length := compressedHeaders_length live buffer
  declared := by
    intro value hvalue hne hvisible
    rw [compressedHeaders_type,
      if_pos ((declaredType?_isSome live).mpr ⟨value, hvalue, hne, hvisible⟩)]
  guessed := by
    intro hundeclared
    rw [compressedHeaders_type, if_neg]
    intro hdeclared
    obtain ⟨value, hvalue, hne, hvisible⟩ := (declaredType?_isSome live).mp hdeclared
    rcases hundeclared value hvalue with hempty | hinvisible
    · exact hne hempty
    · exact Bool.false_ne_true (hinvisible.symm.trans hvisible)
  others := fun _ hname => compressedHeaders_other live buffer hname

omit [MemberStream τ] in
/-- The headers of a dressed sink, if it keeps the headers that are set. -/
theorem dressed_headers
    (hset : ∀ (w : ω) headers, Sink.headers (Sink.setHeaders w headers) = headers)
    (l : GzipLayer τ ω) :
    l.due = .skip ∧ Sink.headers l.dressed = Sink.headers l.inner ∨
    l.due = .compress ∧
      Sink.headers l.dressed = compressedHeaders (Sink.headers l.inner) l.buffer := by
  unfold dressed
  cases hdue : l.due with
  | pending => exact absurd hdue l.due_ne_pending
  | skip => exact .inl ⟨rfl, rfl⟩
  | compress => exact .inr ⟨rfl, hset _ _⟩

/-- **The head goes down at one moment**, with one of the operations on a layer, or has not yet. It
has the status that the layer had and the live headers of that moment: as they were if the decision
fell against compression, and else dressed for it. -/
inductive GivesHead (layer : GzipLayer τ (HeadLog σ)) (operations : List Operation) : Prop
  | waiting (hdecision : (layer.after operations).decision = .pending)
    (hheads : (layer.after operations).inner.heads = [])
  | sent (earlier : List Operation) (moment : Operation) (later : List Operation)
    (hsplit : operations = earlier ++ moment :: later)
    (hbefore : (layer.after earlier).decision = .pending)
    (hfalls : (moment.apply (layer.after earlier)).decision = (layer.after operations).decision)
    (sent : Headers)
    (hheads : (layer.after operations).inner.heads
      = [⟨(layer.after earlier).status.getD 200, sent⟩])
    (hsent : (layer.after operations).decision = .skip ∧ sent = Sink.headers (layer.after earlier) ∨
      (layer.after operations).decision = .compress ∧
        Dresses (Sink.headers (layer.after earlier))
          ((layer.after earlier).buffer ++ moment.data) sent)

/-- **What a compression layer does to the headers.** Let it be put in front of any sink that keeps
the headers that are set, and let any requests and ends follow. One head goes down at most, with the
live headers of the moment of the decision, and only the decision for compression edits these. -/
theorem gives_head (hset : ∀ (s : σ) headers, Sink.headers (Sink.setHeaders s headers) = headers)
    (sink : σ) (stream : τ) (minSize : Nat) (operations : List Operation) :
    GivesHead (.around { sink } stream minSize) operations := by
  have hrun := @after_heads τ σ _ _ (.around { sink } stream minSize) rfl rfl operations
  rcases hrun with
    ⟨hd, hheads⟩ | ⟨earlier, moment, later, hsplit, hd, hfalls, hdue, hheads⟩
  · exact .waiting hd hheads
  · have hlaw : ∀ (w : HeadLog σ) headers, Sink.headers (Sink.setHeaders w headers) = headers :=
      fun w => hset w.sink
    refine .sent earlier moment later hsplit hd hfalls _ hheads ?_
    rcases dressed_headers hlaw _ with ⟨hskip, hheaders⟩ | ⟨hcompress, hheaders⟩
    · exact .inl ⟨hdue.trans hskip, hheaders⟩
    · refine .inr ⟨hdue.trans hcompress, ?_⟩
      rw [hheaders]
      exact dresses_compressedHeaders _ _

/-- A body with a declared type and a length, whose headers are taken away after the write. -/
theorem gives_head_typed :
    let typed := (({} : Headers).append "content-type" (Bytes.ofString "text/html")).append
      "content-length" (Bytes.ofString "5")
    let layer := GzipLayer.around ({ sink := {} } : HeadLog Recorder) (.new 6 : Stored) 4
    GivesHead layer [.setHeaders typed, .write (Bytes.ofString "hello"), .setHeaders {}, .close] :=
  gives_head (fun _ _ => rfl) _ _ 4 _

/-- **A declared type that is lost**: behind an empty value, or with a byte that is no visible
ASCII. The body is compressed and sent with the type that it looks like. -/
theorem replaces_declared :
    let behind := (({} : Headers).append "content-type" []).append "content-type"
      (Bytes.ofString "application/json")
    let invisible := ({} : Headers).append "content-type" (Bytes.ofString "text/" ++ [0xe9])
    let layer := GzipLayer.around ({ sink := {} } : HeadLog Recorder) (.new 6 : Stored) 4
    ∀ live ∈ [behind, invisible],
      let l := layer.after [.setHeaders live, .write (Bytes.ofString "hello")]
      (∃ value ∈ live.values "content-type", value ≠ []) ∧ l.decision = .compress ∧
      ∃ sent, l.inner.heads = [⟨200, sent⟩] ∧
        sent.values "content-type" = [Bytes.ofString "text/plain; charset=utf-8"] := by
  intro behind invisible layer live hlive l
  set hello := Bytes.ofString "hello"
  have hfacts : (∃ value ∈ live.values "content-type", value ≠ []) ∧ declaredType? live = none ∧
      decide live 200 4 hello = .compress := by
    revert live
    decide +kernel
  obtain ⟨hvalue, hundeclared, hdue⟩ := hfacts
  -- the write makes the decision fall
  set m : GzipLayer Stored (HeadLog Recorder) := Sink.setHeaders layer live
  have hl : l = (m.held hello).commit := by
    show (m.write hello).2 = _
    rw [write_pending rfl rfl rfl, report_snd]
    rfl
  obtain ⟨hdecision, hheads⟩ := commit_heads (l := m.held hello) rfl
  have hcompress : (m.held hello).due = .compress := hdue
  refine ⟨hvalue, ?_, Sink.headers (m.held hello).dressed, ?_, ?_⟩
  · rw [hl, hdecision, hcompress]
  · rw [hl, hheads, dressed_heads]
    rfl
  · rcases dressed_headers (fun _ _ => rfl) (m.held hello) with ⟨hskip, -⟩ | ⟨-, hheaders⟩
    · exact absurd (hskip.symm.trans hcompress) (by decide)
    · rw [hheaders]
      show (compressedHeaders live hello).values "content-type" = _
      rw [compressedHeaders_type, hundeclared, if_neg (by decide)]
      decide +kernel

end GzipLayer

end HttpPipeline
