import HttpPipeline.Proofs.Response.Reliable
import Mathlib.Data.List.TakeWhile

/-!
# The course of a compressed stream

Anything may be asked of a stream in any order: to write, nothing included, to flush, before
anything was written, to finish, any number of times. Whatever it is, what comes out is laid out as
a member has to be (`GzipStream.performAll_course`).

There are two phases. Up to the first `finish` the stream is open, and its state is a function of
what was asked of the encoder so far (`GzipStream.opened`), as is all that came out
(`GzipStream.emitted`): nothing if nothing was asked, and otherwise the header and the output of the
encoder. An operation adds one request and hands over the difference, which is why the header comes
out with the first operation, whichever it is (`GzipStream.perform_opened`). The first `finish` adds
the end of the deflate stream and the trailer for all that has entered (`GzipStream.finish_opened`).
After it every operation leaves stream and sink as they are (`GzipStream.perform_finished`).
-/

namespace HttpPipeline

/-- **An offer to a sink that never fails** is taken as a whole. -/
theorem Traced.writeAll_delivers {σ : Type} [Sink σ] {P : σ → Prop} (hP : Sink.Reliable P)
    {t : Traced σ} (ht : P t.sink) (data : Bytes) :
    ∃ t', Sink.writeAll t data = (.ok (), t') ∧ t'.body = t.body ++ data ∧ P t'.sink := by
  -- the status of this ledger is of no account, as the record says nothing about the head
  have haccount : Account P { status := some 200, written := t.body } t := ⟨rfl, ht⟩
  obtain ⟨t', hwrite, hbody, hsink⟩ := (keeps hP).writeAll_settled haccount rfl data
  exact ⟨t', hwrite, hbody, hsink⟩

namespace GzipStream

/-! ### Operations -/

/-- What may be asked of a stream. -/
inductive Operation
  | write (data : Bytes)
  | flush
  | finish
  deriving DecidableEq, Repr

/-- What an operation asks of the encoder while the stream is open and stays so. -/
def Operation.request? : Operation → Option Deflater.Request
  | write data => some (.push data)
  | flush => some .sync
  | finish => none

/-- What comes of an operation once the stream is finished. -/
def Operation.atEnd : Operation → Except StreamError Unit
  | finish => .ok ()
  | _ => .error .alreadyFinished

namespace Operation

/-- The operations before the first `finish`. -/
def before (operations : List Operation) : List Operation :=
  operations.takeWhile (· ≠ .finish)

/-- The first `finish` and the operations after it. -/
def fromEnd (operations : List Operation) : List Operation :=
  operations.dropWhile (· ≠ .finish)

/-- What is asked of the encoder before its end. -/
def requests (operations : List Operation) : List Deflater.Request :=
  (before operations).filterMap request?

/-- The data that enters a stream: all that is written before the first `finish`. -/
def entered (operations : List Operation) : Bytes :=
  (requests operations).flatMap Deflater.Request.input

/-- Operations before the first `finish`, and those from there on. -/
theorem before_append_fromEnd (operations : List Operation) :
    before operations ++ fromEnd operations = operations :=
  List.takeWhile_append_dropWhile

theorem ne_finish_of_mem_before {operations : List Operation} :
    ∀ operation ∈ before operations, operation ≠ .finish := by
  intro operation h
  have hstays : decide (operation ≠ .finish) = true :=
    List.mem_takeWhile_imp (p := fun o : Operation => decide (o ≠ .finish)) h
  exact of_decide_eq_true hstays

/-- **The end** of some operations, if they have one. -/
theorem fromEnd_cases (operations : List Operation) :
    fromEnd operations = [] ∧ .finish ∉ operations ∨
      ∃ later, fromEnd operations = .finish :: later ∧ .finish ∈ operations := by
  have hsplit := before_append_fromEnd operations
  cases hend : fromEnd operations with
  | nil =>
    left
    rw [hend, List.append_nil] at hsplit
    refine ⟨rfl, fun hmem => ?_⟩
    rw [← hsplit] at hmem
    exact ne_finish_of_mem_before _ hmem rfl
  | cons first later =>
    right
    obtain rfl : first = .finish := by
      have hhead := List.head?_dropWhile_not (fun x : Operation => x ≠ .finish) operations
      rw [show operations.dropWhile _ = first :: later from hend] at hhead
      exact not_not.mp (of_decide_eq_false hhead)
    refine ⟨later, rfl, ?_⟩
    rw [← hsplit, hend]
    exact List.mem_append_right _ List.mem_cons_self

end Operation

variable {ε σ : Type} [Deflater ε] [Sink σ]

/-- An operation, with the sink that the output goes to. -/
def Operation.perform (operation : Operation) (s : GzipStream ε) (sink : σ) :
    Except StreamError Unit × GzipStream ε × σ :=
  match operation with
  | write data => s.write data sink
  | flush => s.flush sink
  | finish => s.finish sink

/-- Operations on a stream, one after the other. -/
def performAll : List Operation → GzipStream ε → σ →
    List (Except StreamError Unit) × GzipStream ε × σ
  | [], s, sink => ([], s, sink)
  | operation :: operations, s, sink =>
    let (result, s, sink) := operation.perform s sink
    let (results, s, sink) := performAll operations s sink
    (result :: results, s, sink)

theorem performAll_append (first second : List Operation) (s : GzipStream ε) (sink : σ) :
    performAll (first ++ second) s sink =
      let (results, s, sink) := performAll first s sink
      let (more, s, sink) := performAll second s sink
      (results ++ more, s, sink) := by
  induction first generalizing s sink with
  | nil => rfl
  | cons operation first ih =>
    simp only [List.cons_append, performAll, ih]

/-- **After the end** nothing changes any more. -/
theorem perform_finished {s : GzipStream ε} (h : s.finished = true) (operation : Operation)
    (sink : σ) : operation.perform s sink = (operation.atEnd, s, sink) := by
  cases operation <;> exact if_pos h

/-- **A run after the end.** -/
theorem performAll_finished {s : GzipStream ε} (h : s.finished = true) (operations : List Operation)
    (sink : σ) : performAll operations s sink = (operations.map Operation.atEnd, s, sink) := by
  induction operations with
  | nil => rfl
  | cons operation operations ih =>
    simp only [performAll, perform_finished h, ih]
    rfl

/-! ### Open streams -/

/-- An open stream of a level, after some requests to the encoder. -/
def opened (level : Nat) (requests : List Deflater.Request) : GzipStream ε where
  level
  encoder := (Deflater.run (Deflater.start level) requests).1
  checksum := Crc32.start.update (requests.flatMap Deflater.Request.input)
  length := UInt32.ofNat (requests.flatMap Deflater.Request.input).length
  headerWritten := !requests.isEmpty

/-- The same stream after its end. -/
def ended (level : Nat) (requests : List Deflater.Request) : GzipStream ε :=
  { (opened level requests : GzipStream ε) with
    encoder := (Deflater.finish (Deflater.run (Deflater.start level : ε) requests).1).1
    headerWritten := true
    finished := true }

/-- What came out of an open stream. -/
def emitted (ε : Type) [Deflater ε] (level : Nat) (requests : List Deflater.Request) : Bytes :=
  if requests.isEmpty then []
  else Member.header ++ (Deflater.run (Deflater.start level : ε) requests).2

/-- With the header that is still to be written, it is the header and the output of the encoder. -/
theorem emitted_pendingHeader (level : Nat) (requests : List Deflater.Request) :
    emitted ε level requests ++ (opened level requests : GzipStream ε).pendingHeader
      = Member.header ++ (Deflater.run (Deflater.start level : ε) requests).2 := by
  cases requests with
  | nil => exact (List.append_nil Member.header).symm
  | cons request requests => exact List.append_nil _

/-- **One request more.** -/
theorem perform_opened {operation : Operation} {request : Deflater.Request}
    (h : operation.request? = some request) (level : Nat) (requests : List Deflater.Request) :
    ∃ more, emitted ε level (requests ++ [request]) = emitted ε level requests ++ more ∧
      ∀ {σ : Type} [Sink σ] (sink : σ),
        operation.perform (opened level requests : GzipStream ε) sink
          = ((Sink.writeAll sink more).1, opened level (requests ++ [request]),
            (Sink.writeAll sink more).2) := by
  let s : GzipStream ε := opened level requests
  have hrun : Deflater.run (Deflater.start level : ε) (requests ++ [request])
      = ((Deflater.serve s.encoder request).1,
        (Deflater.run (Deflater.start level : ε) requests).2
          ++ (Deflater.serve s.encoder request).2) := by
    rw [Deflater.run_append]
    simp [Deflater.run, s, opened]
  have hplain : (requests ++ [request]).flatMap Deflater.Request.input
      = requests.flatMap Deflater.Request.input ++ request.input := by
    rw [List.flatMap_append, List.flatMap_singleton]
  have hsome : (requests ++ [request]).isEmpty = false := by simp
  refine ⟨s.pendingHeader ++ (Deflater.serve s.encoder request).2, ?_, fun sink => ?_⟩
  · rw [← List.append_assoc, emitted_pendingHeader, emitted, hsome, hrun, ← List.append_assoc]
    rfl
  -- the checksum and the count go on from what they were, so the next stream is an opened one again
  · have hnext : (opened level (requests ++ [request]) : GzipStream ε) =
        { s with
          encoder := (Deflater.serve s.encoder request).1
          checksum := s.checksum.update request.input
          length := s.length + UInt32.ofNat request.input.length
          headerWritten := true } := by
      simp only [opened, hrun, hplain, hsome, Crc32.update_append, List.length_append,
        UInt32.ofNat_add, s]
      rfl
    cases operation with
    | write data =>
      obtain rfl := Option.some.inj h
      rw [hnext]
      rfl
    | flush =>
      obtain rfl := Option.some.inj h
      -- a flush adds nothing to the checksum and to the length
      have hlength : s.length + UInt32.ofNat 0 = s.length := UInt32.add_zero _
      rw [hnext]
      simp only [Deflater.Request.input, List.length_nil, hlength, Crc32.update_nil]
      rfl
    | finish => cases h

/-- **The end**, over a sink that takes it. -/
theorem finish_opened {P : σ → Prop} (hP : Sink.Reliable P) {t : Traced σ} (ht : P t.sink)
    {level : Nat} {requests : List Deflater.Request} (hbody : t.body = emitted ε level requests) :
    ∃ t', (opened level requests : GzipStream ε).finish t = (.ok (), ended level requests, t') ∧
      t'.body = Member.header ++ ((Deflater.run (Deflater.start level : ε) requests).2
          ++ (Deflater.finish (Deflater.run (Deflater.start level : ε) requests).1).2)
        ++ Member.trailer (crc32 (requests.flatMap Deflater.Request.input))
          (UInt32.ofNat (requests.flatMap Deflater.Request.input).length) ∧
      P t'.sink := by
  let s : GzipStream ε := opened level requests
  obtain ⟨t₁, htail, hbody₁, ht₁⟩ := Traced.writeAll_delivers hP ht
    (s.pendingHeader ++ (Deflater.finish s.encoder).2)
  obtain ⟨t₂, htrailer, hbody₂, ht₂⟩ := Traced.writeAll_delivers hP ht₁
    (Member.trailer s.checksum.value s.length)
  refine ⟨t₂, ?_, ?_, ht₂⟩
  · have hopen : ¬s.finished = true := Bool.false_ne_true
    show s.finish t = _
    simp only [GzipStream.finish, if_neg hopen, htail, htrailer]
    rfl
  · rw [hbody₂, hbody₁, hbody, ← List.append_assoc (emitted ε level requests),
      emitted_pendingHeader, List.append_assoc Member.header]
    rfl

/-! ### Whole runs -/

/-- **A run of an open stream** that is not finished. -/
theorem performAll_opened {P : σ → Prop} (hP : Sink.Reliable P) (operations : List Operation)
    (hopen : ∀ operation ∈ operations, operation ≠ .finish) {t : Traced σ} (ht : P t.sink)
    {level : Nat} {requests : List Deflater.Request} (hbody : t.body = emitted ε level requests) :
    ∃ t', performAll operations (opened level requests : GzipStream ε) t
        = (operations.map fun _ => .ok (),
          opened level (requests ++ operations.filterMap Operation.request?), t') ∧
      t'.body = emitted ε level (requests ++ operations.filterMap Operation.request?) ∧
      P t'.sink := by
  -- on the operations, with the requests served so far in the stream
  induction operations generalizing t requests with
  | nil =>
    refine ⟨t, ?_, ?_, ht⟩
    · rw [List.filterMap_nil, List.append_nil]
      rfl
    · rw [List.filterMap_nil, List.append_nil, hbody]
  | cons operation operations ih =>
    obtain ⟨hfirst, hrest⟩ := List.forall_mem_cons.mp hopen
    obtain ⟨request, hrequest⟩ : ∃ request, operation.request? = some request := by
      cases operation with
      | write data => exact ⟨_, rfl⟩
      | flush => exact ⟨_, rfl⟩
      | finish => exact absurd rfl hfirst
    obtain ⟨more, hmore, hstep⟩ := perform_opened (ε := ε) hrequest level requests
    obtain ⟨t₁, hwrite, hbody₁, ht₁⟩ := Traced.writeAll_delivers hP ht more
    rw [hbody, ← hmore] at hbody₁
    obtain ⟨t', hrun, hbody', ht'⟩ := ih hrest ht₁ hbody₁
    rw [List.append_assoc, List.singleton_append] at hrun hbody'
    rw [List.filterMap_cons_some hrequest]
    refine ⟨t', ?_, hbody', ht'⟩
    simp only [performAll, hstep, hwrite]
    rw [hrun]
    rfl

/-- The same for a new stream, and for a sink that has received nothing yet. -/
theorem performAll_new (ε : Type) [Deflater ε] {P : σ → Prop} (hP : Sink.Reliable P)
    {operations : List Operation} (hopen : ∀ operation ∈ operations, operation ≠ .finish)
    {sink : σ} (hsink : P sink) (level : Nat) :
    let requests := operations.filterMap Operation.request?
    ∃ t : Traced σ, performAll operations (opened level [] : GzipStream ε) { sink := sink }
        = (operations.map fun _ => .ok (), opened level requests, t) ∧
      t.body = emitted ε level requests ∧ P t.sink := by
  have hbody : ({ sink := sink } : Traced σ).body = emitted ε level [] := rfl
  have hrun := performAll_opened hP operations hopen hsink hbody
  rwa [List.nil_append] at hrun

/-- **A run up to the end and beyond.** -/
theorem performAll_ended (hε : Deflater.EndsDecodable ε) {P : σ → Prop} (hP : Sink.Reliable P)
    {sink : σ} (hsink : P sink) (level : Nat) {before : List Operation}
    (hopen : ∀ operation ∈ before, operation ≠ .finish) (later : List Operation) :
    let requests := before.filterMap Operation.request?
    let plain := requests.flatMap Deflater.Request.input
    let encoded := Deflater.run (Deflater.start level : ε) requests
    let deflated := encoded.2 ++ (Deflater.finish encoded.1).2
    ∃ t : Traced σ, t.body = Member.header ++ deflated
          ++ Member.trailer (crc32 plain) (UInt32.ofNat plain.length) ∧
      inflate deflated = (plain, .ended []) ∧ Member.Holds t.body plain ∧
      performAll (before ++ .finish :: later) (opened level [] : GzipStream ε) { sink := sink }
        = (before.map (fun _ => .ok ()) ++ .ok () :: later.map Operation.atEnd,
          ended level requests, t) := by
  intro requests plain encoded deflated
  obtain ⟨t, hrun, hbody, ht⟩ := performAll_new ε hP hopen hsink level
  obtain ⟨t', hfinish, hbody', -⟩ := finish_opened (ε := ε) hP ht hbody
  have hdecode : ∀ rest, inflate (deflated ++ rest) = (plain, .ended rest) := hε level requests
  refine ⟨t', hbody', ?_, ?_, ?_⟩
  · have hnone := hdecode []
    rwa [List.append_nil] at hnone
  · rw [hbody']
    exact Member.Holds.ofParts hdecode
  · have hafter := performAll_finished
      (s := (ended level (before.filterMap Operation.request?) : GzipStream ε)) rfl later t'
    rw [performAll_append, hrun]
    simp only [performAll, Operation.perform, hfinish, hafter]
    rfl

/-- Each operation of an open stream is a request. -/
theorem requests_eq_nil_iff {operations : List Operation} (hnever : .finish ∉ operations) :
    Operation.requests operations = [] ↔ operations = [] := by
  have hbefore : Operation.before operations = operations :=
    List.takeWhile_eq_self_iff.mpr fun operation hmem =>
      decide_eq_true fun hfinish => hnever (hfinish ▸ hmem)
  rw [Operation.requests, hbefore]
  constructor
  · intro h
    refine List.eq_nil_iff_forall_not_mem.mpr fun operation hmem => ?_
    have hnone := List.filterMap_eq_nil_iff.mp h operation hmem
    cases operation with
    | finish => exact hnever hmem
    | write data => cases hnone
    | flush => cases hnone
  · rintro rfl
    rfl

/-- **A course**: what has come of some operations and what has come out. The encoder has given out
`encoded` for what was asked of it before the first `finish`, and `deflated` with its end. -/
structure Course (operations : List Operation) (encoded deflated : Bytes)
    (results : List (Except StreamError Unit)) (body : Bytes) : Prop where
  /-- All before the first `finish` succeeds. From there on a `finish` succeeds, and all else fails.
  -/
  results_eq : results = (Operation.before operations).map (fun _ => .ok ())
    ++ (Operation.fromEnd operations).map Operation.atEnd
  /-- Nothing comes out of a stream that is not used. -/
  unused : operations = [] → body = []
  /-- The header comes first, whatever was asked first. -/
  unfinished : operations ≠ [] → .finish ∉ operations → body = Member.header ++ encoded
  /-- There follow the rest of the deflate stream, and right after it the checksum and the length of
  all that entered before the end, and nothing else. -/
  finished : .finish ∈ operations → body = Member.header ++ deflated ++
    (Bytes.littleEndian 4 (crc32 (Operation.entered operations)).toNat ++
      Bytes.littleEndian 4 ((Operation.entered operations).length % 2 ^ 32))
  /-- Between the two is one deflate stream. -/
  inflate_deflated : .finish ∈ operations →
    inflate deflated = (Operation.entered operations, .ended [])
  /-- All of it is one member. -/
  decode : .finish ∈ operations → Member.decode? body = some (Operation.entered operations)

/-- **The course of a new stream** over a sink that never fails, whatever is asked of it in whatever
order. -/
theorem performAll_course (hε : Deflater.EndsDecodable ε) (level : Nat) {sink : σ}
    (hsink : Sink.NeverFails sink) (operations : List Operation) :
    let encoded := Deflater.run (Deflater.start level : ε) (Operation.requests operations)
    let left := performAll operations (.new level : GzipStream ε) ({ sink } : Traced σ)
    Course operations encoded.2 (encoded.2 ++ (Deflater.finish encoded.1).2) left.1
      left.2.2.body ∧ (.finish ∈ operations → left.2.1.finished = true) := by
  intro encoded left
  obtain ⟨P, hP, hsink⟩ := hsink
  -- the operations fall apart at the first end, and what comes later changes nothing
  have hopen : ∀ operation ∈ Operation.before operations, operation ≠ .finish :=
    Operation.ne_finish_of_mem_before
  have hleft : left = performAll (Operation.before operations ++ Operation.fromEnd operations)
      (opened level []) ({ sink } : Traced σ) :=
    congrArg (performAll · _ _) (Operation.before_append_fromEnd operations).symm
  rcases Operation.fromEnd_cases operations with ⟨hnone, hnever⟩ | ⟨later, hend, hmem⟩
  · obtain ⟨t, hrun, hbody, -⟩ := performAll_new ε hP hopen hsink level
    rw [hnone, List.append_nil, hrun] at hleft
    have hnothing := requests_eq_nil_iff hnever
    rw [hleft]
    refine ⟨⟨?_, fun hempty => ?_, fun hsome _ => ?_, fun h => absurd h hnever,
      fun h => absurd h hnever, fun h => absurd h hnever⟩, fun h => absurd h hnever⟩
    · rw [hnone]
      exact (List.append_nil _).symm
    · exact hbody.trans (if_pos (List.isEmpty_iff.mpr (hnothing.mpr hempty)))
    · exact hbody.trans (if_neg (mt List.isEmpty_iff.mp (mt hnothing.mp hsome)))
  · obtain ⟨t, hbody, hinflate, hholds, hrun⟩ := performAll_ended hε hP hsink level hopen later
    rw [hend, hrun] at hleft
    rw [hleft]
    refine ⟨⟨?_, fun hempty => ?_, fun _ hnever => absurd hmem hnever, fun _ => ?_,
      fun _ => hinflate, fun _ => hholds.decode⟩, fun _ => rfl⟩
    · rw [hend]
      rfl
    · rw [hempty] at hmem
      exact absurd hmem List.not_mem_nil
    · rw [hbody, Member.trailer, UInt32.toNat_ofNat']
      rfl

end GzipStream

end HttpPipeline
