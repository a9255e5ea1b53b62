import HttpPipeline.Proofs.Gzip.Compressor
import HttpPipeline.Proofs.Gzip.Course

/-!
# The course of a compressed stream, call by call

The calls of an operation and the fate of their output depend on each other in both directions. A
sink that fails stops the calls, and the room for the next call is what the buffer has after it was
drained. Over a sink that never fails only the latter is left, so that the calls are those of
`Compressor.drive`, and all of their output arrives (`ChunkedStream.deflate_delivers`).

So a stream that makes its calls one by one does what `GzipStream` does with the compressor and the
buffer as its encoder. The relation is a function (`ChunkedStream.view`), and it is kept by each
operation (`ChunkedStream.perform_view`) and thus by any number of them
(`ChunkedStream.performAll_view`). What is known of the course of the one is then known of the other
(`ChunkedStream.performAll_follows_course`).

This is so for every stream from which nothing was taken and into which nothing has entered,
whatever was done with it before it was reset. Such a stream is new, but for its buffer, which keeps
the capacity it had (`ChunkedStream.Lived.eq_new`).
-/

namespace HttpPipeline

namespace ChunkedStream

open Compressor (Mode Sound Reached Ending Driven Underway drive keep)

/-! ### One operation -/

variable {κ σ : Type} [Compressor κ] [Sink σ] {P : σ → Prop}

/-- A stream after the calls of an operation. -/
def after (s : ChunkedStream κ) (o : Compressor.Outcome κ) : ChunkedStream κ :=
  { s with compressor := o.compressor, out := [], capacity := o.capacity }

/-- A stream in the middle of an operation, if its buffer is always drained. -/
def underway (s : ChunkedStream κ) (left out : Bytes) : Underway κ where
  compressor := s.compressor
  left
  buffered := s.out.length
  capacity := s.capacity
  out

/-- There is room left behind what was in the buffer before. -/
theorem length_append_lt_iff (before more : Bytes) (capacity : Nat) :
    (before ++ more).length < capacity ↔ more.length < capacity - before.length := by
  rw [List.length_append]
  omega

section Delivers

variable (hP : Sink.Reliable P)

include hP

omit [Compressor κ] in
theorem drain_delivers (s : ChunkedStream κ) {t : Traced σ} (ht : P t.sink) :
    ∃ t', s.drain t = (.ok (), { s with out := [] }, t') ∧ t'.body = t.body ++ s.out ∧
      P t'.sink := by
  by_cases hempty : s.out.isEmpty
  · have hnil : s.out = [] := List.isEmpty_iff.mp hempty
    refine ⟨t, ?_, ?_, ht⟩
    · rw [drain, if_pos hempty, ← hnil]
    · rw [hnil, List.append_nil]
  · obtain ⟨t', hwrite, hbody, ht'⟩ := Traced.writeAll_delivers hP ht s.out
    refine ⟨t', ?_, hbody, ht'⟩
    rw [drain, if_neg hempty, hwrite]

omit [Compressor κ] in
theorem drainChunk_delivers (s : ChunkedStream κ) {t : Traced σ} (ht : P t.sink) :
    ∃ out t', s.drainChunk t = (.ok (), { s with out }, t') ∧ out.length = keep s.out.length ∧
      t'.body ++ out = t.body ++ s.out ∧ P t'.sink := by
  unfold drainChunk keep
  split_ifs
  · obtain ⟨t', hdrain, hbody, ht'⟩ := drain_delivers hP s ht
    exact ⟨[], t', hdrain, rfl, (List.append_nil _).trans hbody, ht'⟩
  · exact ⟨s.out, t, rfl, rfl, rfl, ht⟩

/-- **One call** over a sink that never fails is one with a buffer that is always drained. What has
arrived or is in the buffer is what all calls so far have given out, behind what was there before.
-/
theorem call_arrives {s : ChunkedStream κ} {mode : Mode} {input : Bytes} {t : Traced σ}
    (ht : P t.sink) {before out : Bytes} (hout : t.body ++ s.out = before ++ out) :
    let u := s.underway input out
    (∀ o, u.call mode = .inl o → o.result = .ok () →
      ∃ t', call mode (s, input, t) = .inl (.ok (), s.after o, t') ∧ t'.body = before ++ o.out ∧
        P t'.sink) ∧
    (∀ v, u.call mode = .inr v →
      ∃ (s' : ChunkedStream κ) (t' : Traced σ), call mode (s, input, t) = .inr (s', v.left, t') ∧
        s'.underway v.left v.out = v ∧ (∀ o, s'.after o = s.after o) ∧
        t'.body ++ s'.out = before ++ v.out ∧ P t'.sink) := by
  intro u
  -- the drain moves bytes from the buffer to the sink, which the body together does not notice
  obtain ⟨kept, t', hdrain, hlength, hbody, ht'⟩ := drainChunk_delivers hP (s.called mode input) ht
  have hall : t'.body ++ kept = before ++ (out ++ (u.answer mode).out) := by
    calc t'.body ++ kept = t.body ++ (s.out ++ (u.answer mode).out) := hbody
      _ = before ++ (out ++ (u.answer mode).out) := by
        rw [← List.append_assoc, hout, List.append_assoc]
  cases hresult : (u.answer mode).result with
  | error message =>
    have hcall : u.call mode = .inl (u.ended mode (.error message)) := by
      simp only [Underway.call, hresult]
    rw [hcall]
    constructor
    · rintro o ⟨⟩ hok
      cases hok
    · rintro v ⟨⟩
  | ok status =>
    have hcall : call mode (s, input, t) =
        if status.isLast mode (s.rest mode input)
          ((s.called mode input).out.length < (s.called mode input).capacity)
        then .inl (({ s.called mode input with out := kept } : ChunkedStream κ).drain t')
        else .inr ({ s.called mode input with out := kept }, s.rest mode input, t') :=
      call_of_drained hresult hdrain
    -- both look at the room in the buffer of the call, before it is drained
    have hroomLeft : decide ((s.called mode input).out.length < (s.called mode input).capacity)
        = decide ((u.answer mode).out.length < u.room) :=
      decide_eq_decide.mpr (length_append_lt_iff s.out (u.answer mode).out _)
    rw [hcall, hroomLeft]
    by_cases hlast : status.isLast mode (u.rest mode) ((u.answer mode).out.length < u.room) = true
    · rw [Underway.call_of_last hresult hlast]
      constructor
      · rintro o ⟨⟩ -
        obtain ⟨t'', hdrain', hbody', ht''⟩ :=
          drain_delivers hP { s.called mode input with out := kept } ht'
        exact ⟨t'', (if_pos hlast).trans (congrArg Sum.inl hdrain'), hbody'.trans hall, ht''⟩
      · rintro v ⟨⟩
    · rw [Underway.call_of_not_last hresult hlast]
      constructor
      · rintro o ⟨⟩
      · rintro v ⟨⟩
        refine ⟨{ s.called mode input with out := kept }, t', if_neg hlast, ?_, fun o => rfl, hall,
          ht'⟩
        rw [called, List.length_append] at hlength
        simp only [underway, Underway.next, hlength]
        rfl

/-- **The calls of an operation** over a sink that never fails are those with a buffer that is
always drained, and all of their output arrives. -/
theorem deflate_delivers {mode : Mode} {u : Underway κ} {o : Compressor.Outcome κ}
    (hturns : Turns (Underway.call · mode) u o) (hok : o.result = .ok ()) {s : ChunkedStream κ}
    {input out : Bytes} (hu : s.underway input out = u) {t : Traced σ} (ht : P t.sink)
    {before : Bytes} (hout : t.body ++ s.out = before ++ out) :
    ∃ t', s.deflate mode input t = .some (.ok (), s.after o, t') ∧ t'.body = before ++ o.out ∧
      P t'.sink := by
  induction hturns generalizing s input out t with
  | last hcall =>
    subst hu
    obtain ⟨t', hcall', hbody, ht'⟩ := (call_arrives hP ht hout).1 _ hcall hok
    exact ⟨t', loop_eq_some_iff.mpr (.last hcall'), hbody, ht'⟩
  | more hcall _ ih =>
    subst hu
    obtain ⟨s', t₁, hcall', hunder, hafter, hout₁, ht₁⟩ := (call_arrives hP ht hout).2 _ hcall
    obtain ⟨t', hdeflate, hbody, ht'⟩ := ih hok hunder ht₁ hout₁
    rw [hafter] at hdeflate
    exact ⟨t', loop_eq_some_iff.mpr (.more hcall' (loop_eq_some_iff.mp hdeflate)), hbody, ht'⟩

end Delivers

/-! ### The same stream seen from further up -/

/-- A stream as one that leaves its calls to an encoder. -/
def view (room : Nat) (s : ChunkedStream κ) : GzipStream (Driven κ room) where
  level := s.level
  encoder := ⟨s.compressor, s.opened.out.length, s.capacity⟩
  checksum := s.checksum
  length := s.length
  headerWritten := s.headerWritten
  finished := s.finished

/-- An operation, with the sink that the output goes to. -/
def perform (operation : GzipStream.Operation) (s : ChunkedStream κ) (sink : σ) :
    Part (Result κ σ) :=
  match operation with
  | .write data => s.write data sink
  | .flush => s.flush sink
  | .finish => s.finish sink

/-- Operations on a stream, one after the other, as long as there is an end to each of them. -/
def performAll : List GzipStream.Operation → ChunkedStream κ → σ →
    Part (List (Except StreamError Unit) × ChunkedStream κ × σ)
  | [], s, sink => .some ([], s, sink)
  | operation :: operations, s, sink =>
    (perform operation s sink).bind fun (result, s, sink) =>
      (performAll operations s sink).map fun (results, s, sink) => (result :: results, s, sink)

/-- Operations come to an end if the first does, and then the others. -/
theorem performAll_cons_iff {operation : GzipStream.Operation}
    {operations : List GzipStream.Operation} {s s'' : ChunkedStream κ} {sink sink'' : σ}
    {results : List (Except StreamError Unit)} :
    performAll (operation :: operations) s sink = .some (results, s'', sink'') ↔
      ∃ result s' sink' later, perform operation s sink = .some (result, s', sink') ∧
        performAll operations s' sink' = .some (later, s'', sink'') ∧
          results = result :: later := by
  simp only [performAll, Part.eq_some_iff, Part.mem_bind_iff, Part.mem_map_iff, Prod.exists,
    Prod.mk.injEq]
  constructor
  · rintro ⟨result, s', sink', hfirst, later, _, _, hrest, rfl, rfl, rfl⟩
    exact ⟨result, s', sink', later, hfirst, hrest, rfl⟩
  · rintro ⟨result, s', sink', later, hfirst, hrest, rfl⟩
    exact ⟨result, s', sink', hfirst, later, s'', sink'', hrest, rfl, rfl, rfl⟩

theorem performAll_append {first second : List GzipStream.Operation} {s s' s'' : ChunkedStream κ}
    {sink sink' sink'' : σ} {results more : List (Except StreamError Unit)}
    (h : performAll first s sink = .some (results, s', sink'))
    (h' : performAll second s' sink' = .some (more, s'', sink'')) :
    performAll (first ++ second) s sink = .some (results ++ more, s'', sink'') := by
  induction first generalizing s sink results with
  | nil =>
    cases Part.some_inj.mp h
    exact h'
  | cons operation first ih =>
    obtain ⟨result, s₁, sink₁, later, hfirst, hrest, rfl⟩ := performAll_cons_iff.mp h
    exact performAll_cons_iff.mpr ⟨result, s₁, sink₁, _, hfirst, ih hrest, rfl⟩

/-- **After the end** nothing changes any more. -/
theorem perform_finished {s : ChunkedStream κ} (h : s.finished = true)
    (operation : GzipStream.Operation) (sink : σ) :
    perform operation s sink = .some (operation.atEnd, s, sink) := by
  cases operation <;> exact if_pos h

theorem performAll_finished {s : ChunkedStream κ} (h : s.finished = true)
    (operations : List GzipStream.Operation) (sink : σ) :
    performAll operations s sink = .some (operations.map GzipStream.Operation.atEnd, s, sink) := by
  induction operations with
  | nil => rfl
  | cons operation operations ih =>
    exact performAll_cons_iff.mpr ⟨_, s, sink, _, perform_finished h operation sink, ih, rfl⟩

/-- **Between operations** on a stream whose sink never fails: the buffer is empty, and the
compressor was not asked for the end unless that has come. -/
structure Between (s : ChunkedStream κ) : Prop where
  out_eq : s.out = []
  reached : s.finished = false → ∃ level taken given, Reached level s.compressor taken given

theorem Between.opened_eq {s : ChunkedStream κ} (h : s.Between) (room : Nat) :
    s.opened = { s with out := (s.view room).pendingHeader, headerWritten := true } := by
  obtain ⟨level, compressor, checksum, length, out, capacity, headerWritten, finished⟩ := s
  obtain rfl : out = [] := h.out_eq
  cases headerWritten <;> rfl

/-- A stream whose header is written, with other values for all data so far. -/
def counting (s : ChunkedStream κ) (checksum : Crc32) (length : UInt32) : ChunkedStream κ :=
  { s with checksum, length, headerWritten := true }

/-- **The calls of an operation** hand over what the encoder hands over at once. -/
theorem Between.deflate_view (hP : Sink.Reliable P) {s : ChunkedStream κ} (h : s.Between)
    (room : Nat) (mode : Mode) (input : Bytes) (checksum : Crc32) (length : UInt32)
    {t u : Traced σ} (ht : P t.sink) (hu : P u.sink) (hbody : t.body = u.body)
    {o : Compressor.Outcome κ}
    (hdrive : drive s.compressor mode input s.opened.out.length s.capacity = .some o)
    (hok : o.result = .ok ()) :
    ∃ t' u', { s.opened with checksum, length }.deflate mode input t
        = .some (.ok (), (s.counting checksum length).after o, t') ∧
      Sink.writeAll u ((s.view room).pendingHeader ++ o.out) = (.ok (), u') ∧
      P t'.sink ∧ P u'.sink ∧ t'.body = u'.body := by
  rw [h.opened_eq room] at hdrive ⊢
  let opened : ChunkedStream κ :=
    { s with checksum, length, out := (s.view room).pendingHeader, headerWritten := true }
  have hbefore : t.body ++ opened.out = (t.body ++ opened.out) ++ [] := (List.append_nil _).symm
  obtain ⟨t', hdeflate, hbody', ht'⟩ :=
    deflate_delivers hP (loop_eq_some_iff.mp hdrive) hok (s := opened) rfl ht hbefore
  obtain ⟨u', hwrite, hbody'', hu'⟩ := Traced.writeAll_delivers hP hu
    ((s.view room).pendingHeader ++ o.out)
  exact ⟨t', u', hdeflate, hwrite, ht', hu', by rw [hbody', hbody'', hbody, List.append_assoc]⟩

/-- **One operation**, over two sinks that never fail: it comes to an end, the streams remain one,
and the same arrives at the sinks. -/
theorem perform_view (hκ : Sound κ) (hP : Sink.Reliable P) (operation : GzipStream.Operation)
    {s : ChunkedStream κ} (hs : s.Between) {t u : Traced σ} (ht : P t.sink) (hu : P u.sink)
    (hbody : t.body = u.body) (room : Nat) :
    ∃ result s' t' u', perform operation s t = .some (result, s', t') ∧
      operation.perform (s.view room) u = (result, s'.view room, u') ∧
      s'.Between ∧ P t'.sink ∧ P u'.sink ∧ t'.body = u'.body := by
  -- a stream that has ended refuses both alike; an open one has a compressor that was reached
  cases hfinished : s.finished with
  | true =>
    exact ⟨operation.atEnd, s, t, u, perform_finished hfinished operation t,
      GzipStream.perform_finished hfinished operation u, hs, ht, hu, hbody⟩
  | false =>
    have hopen : ¬s.finished = true := Bool.eq_false_iff.mp hfinished
    have hopen' : ¬(s.view room).finished = true := hopen
    obtain ⟨level, taken, given, hreached⟩ := hs.reached hfinished
    -- opening the member touches neither the checksum nor the count
    have hsame : { s.opened with checksum := s.checksum, length := s.length } = s.opened := by
      rw [hs.opened_eq room]
    have hrun (mode : Mode) (hmode : mode ≠ .finish) (input : Bytes) :=
      Compressor.exists_drive_run hκ hreached hmode input s.opened.out.length s.capacity
    cases operation with
    | write data =>
      obtain ⟨o, hdrive, hok, hnext, -⟩ := hrun .run (by decide) data
      obtain ⟨t', u', hdeflate, hwrite, ht', hu', hbody'⟩ := hs.deflate_view hP room .run data
        (s.checksum.update data) (s.length + UInt32.ofNat data.length) ht hu hbody hdrive hok
      have hpush : Deflater.push (s.view room).encoder data
          = (⟨o.compressor, 0, o.capacity⟩, o.out) := Driven.operate_eq hdrive
      refine ⟨.ok (),
        (s.counting (s.checksum.update data) (s.length + UInt32.ofNat data.length)).after o,
        t', u', ?_, ?_, ⟨rfl, fun _ => ⟨_, _, _, hnext⟩⟩, ht', hu', hbody'⟩
      · rw [perform, write, if_neg hopen]
        exact hdeflate
      · simp only [GzipStream.Operation.perform, GzipStream.write, if_neg hopen', hpush, hwrite]
        rfl
    | flush =>
      obtain ⟨o, hdrive, hok, hnext, -⟩ := hrun .sync (by decide) []
      obtain ⟨t', u', hdeflate, hwrite, ht', hu', hbody'⟩ := hs.deflate_view hP room .sync []
        s.checksum s.length ht hu hbody hdrive hok
      have hsync : Deflater.sync (s.view room).encoder
          = (⟨o.compressor, 0, o.capacity⟩, o.out) := Driven.operate_eq hdrive
      refine ⟨.ok (), (s.counting s.checksum s.length).after o, t', u', ?_, ?_,
        ⟨rfl, fun _ => ⟨_, _, _, hnext⟩⟩, ht', hu', hbody'⟩
      · rw [hsame] at hdeflate
        rw [perform, flush, if_neg hopen, hdeflate]
      · simp only [GzipStream.Operation.perform, GzipStream.flush, if_neg hopen', hsync, hwrite]
        rfl
    | finish =>
      obtain ⟨o, hdrive, hok, -⟩ :=
        Compressor.exists_drive_finish hκ (.asked hreached) s.opened.out.length s.capacity
      obtain ⟨t₁, u₁, hdeflate, hwrite, ht₁, hu₁, hbody₁⟩ := hs.deflate_view hP room .finish []
        s.checksum s.length ht hu hbody hdrive hok
      have hend : Deflater.finish (s.view room).encoder
          = (⟨o.compressor, 0, o.capacity⟩, o.out) := Driven.operate_eq hdrive
      -- the trailer is handed over by both in the same way
      obtain ⟨t', htrailer, hbody', ht'⟩ := Traced.writeAll_delivers hP ht₁
        (Member.trailer s.checksum.value s.length)
      obtain ⟨u', htrailer', hbody'', hu'⟩ := Traced.writeAll_delivers hP hu₁
        (Member.trailer s.checksum.value s.length)
      refine ⟨.ok (), { (s.counting s.checksum s.length).after o with finished := true }, t', u',
        ?_, ?_, ⟨rfl, fun h => absurd h (by simp)⟩, ht', hu', ?_⟩
      · rw [hsame] at hdeflate
        simp only [perform, finish, if_neg hopen, hdeflate, Part.map_some, addTrailer, after,
          counting, htrailer]
      · simp only [GzipStream.Operation.perform, GzipStream.finish, if_neg hopen', hend, hwrite]
        simp only [view, htrailer']
        rfl
      · rw [hbody', hbody'', hbody₁]

/-- **Any operations**, over a sink that never fails: they come to an end, and calls and encoder
come to the same. -/
theorem performAll_view (hκ : Sound κ) (hP : Sink.Reliable P)
    (operations : List GzipStream.Operation) {s : ChunkedStream κ} (hs : s.Between)
    {t u : Traced σ} (ht : P t.sink) (hu : P u.sink) (hbody : t.body = u.body) (room : Nat) :
    ∃ results s' t' u', performAll operations s t = .some (results, s', t') ∧
      GzipStream.performAll operations (s.view room) u = (results, s'.view room, u') ∧
      t'.body = u'.body := by
  induction operations generalizing s t u with
  | nil => exact ⟨[], s, t, u, rfl, rfl, hbody⟩
  | cons operation operations ih =>
    obtain ⟨result, s₁, t₁, u₁, hfirst, hfirst', hs₁, ht₁, hu₁, hbody₁⟩ :=
      perform_view hκ hP operation hs ht hu hbody room
    obtain ⟨results, s', t', u', hrest, hrest', hbody'⟩ := ih hs₁ ht₁ hu₁ hbody₁
    refine ⟨result :: results, s', t', u', ?_, ?_, hbody'⟩
    · exact performAll_cons_iff.mpr ⟨result, s₁, t₁, results, hfirst, hrest, rfl⟩
    · simp only [GzipStream.performAll, hfirst', hrest']

/-! ### Pristine streams -/

/-- A stream of a level after any use: it was made, and it was used over any sinks and reset, any
number of times. -/
inductive Lived (level : Nat) : ChunkedStream κ → Prop
  | new : Lived level (.new level)
  | performed {s s' : ChunkedStream κ} (h : Lived level s) {operation : GzipStream.Operation}
    {σ : Type} [Sink σ] {sink sink' : σ} {result : Except StreamError Unit}
    (hperform : perform operation s sink = .some (result, s', sink')) : Lived level s'
  | reset {s : ChunkedStream κ} (h : Lived level s) : Lived level s.reset

/-- One call concerns the compressor and the buffer, whatever the sink does. -/
theorem call_keeps (s : ChunkedStream κ) (mode : Mode) (input : Bytes) (sink : σ) :
    ∃ compressor out capacity,
      match call mode (s, input, sink) with
      | .inl r => r.2.1 = { s with compressor, out, capacity }
      | .inr (s', _, _) => s' = { s with compressor, out, capacity } := by
  -- a call changes the compressor and the buffer, however it comes out
  cases hresult : (s.answer mode input).result with
  | error message =>
    rw [call_of_error hresult]
    exact ⟨_, _, _, rfl⟩
  | ok status =>
    obtain ⟨out, hout⟩ := (s.called mode input).drainChunk_keeps sink
    rcases hdrain : (s.called mode input).drainChunk sink with ⟨drained?, drained, sink'⟩
    rw [hdrain] at hout
    obtain rfl : drained = { s.called mode input with out } := hout
    cases drained? with
    | error cause =>
      rw [call_of_not_drained hresult hdrain]
      exact ⟨_, _, _, rfl⟩
    | ok =>
      rw [call_of_drained hresult hdrain]
      split_ifs
      · obtain ⟨out', hout'⟩ := drain_keeps { s.called mode input with out } sink'
        exact ⟨_, _, _, hout'⟩
      · exact ⟨_, _, _, rfl⟩

/-- **The calls of an operation** concern the compressor and the buffer. -/
theorem deflate_keeps {s : ChunkedStream κ} {mode : Mode} {input : Bytes} {sink : σ}
    {r : Result κ σ} (h : s.deflate mode input sink = .some r) :
    ∃ compressor out capacity, r.2.1 = { s with compressor, out, capacity } := by
  have hturns : Turns (call mode) (s, input, sink) r := loop_eq_some_iff.mp h
  clear h
  generalize hstate : (s, input, sink) = state at hturns
  induction hturns generalizing s input sink with
  | last hcall =>
    subst hstate
    obtain ⟨compressor, out, capacity, hkeeps⟩ := s.call_keeps mode input sink
    rw [hcall] at hkeeps
    exact ⟨compressor, out, capacity, hkeeps⟩
  | @more _ later _ hcall _ ih =>
    subst hstate
    obtain ⟨s', left, sink'⟩ := later
    obtain ⟨compressor, out, capacity, hkeeps⟩ := s.call_keeps mode input sink
    rw [hcall] at hkeeps
    obtain ⟨compressor', out', capacity', hkeeps'⟩ := ih (s := s') rfl
    rw [show s' = _ from hkeeps] at hkeeps'
    exact ⟨compressor', out', capacity', hkeeps'⟩

omit [Compressor κ] in
theorem opened_keeps (s : ChunkedStream κ) :
    s.opened.level = s.level ∧ s.opened.headerWritten = true := by
  unfold opened
  split
  · exact ⟨rfl, ‹_›⟩
  · exact ⟨rfl, rfl⟩

/-- An operation leaves a stream as it is, or has taken care of the header. -/
theorem perform_keeps {operation : GzipStream.Operation} {s s' : ChunkedStream κ} {sink sink' : σ}
    {result : Except StreamError Unit} (h : perform operation s sink = .some (result, s', sink')) :
    s' = s ∨ s'.level = s.level ∧ s'.headerWritten = true := by
  cases hfinished : s.finished with
  -- a stream that has ended is left alone
  | true =>
    left
    rw [perform_finished hfinished] at h
    exact (congrArg (fun r => r.2.1) (Part.some_inj.mp h)).symm
  | false =>
    right
    have hopen : ¬s.finished = true := Bool.eq_false_iff.mp hfinished
    obtain ⟨hlevel, hheader⟩ := s.opened_keeps
    cases operation with
    | write data =>
      rw [perform, write, if_neg hopen] at h
      obtain ⟨_, _, _, hkeeps⟩ := deflate_keeps h
      rw [show s' = _ from hkeeps]
      exact ⟨hlevel, hheader⟩
    | flush =>
      rw [perform, flush, if_neg hopen] at h
      obtain ⟨_, _, _, hkeeps⟩ := deflate_keeps h
      rw [show s' = _ from hkeeps]
      exact ⟨hlevel, hheader⟩
    | finish =>
      rw [perform, finish, if_neg hopen, Part.eq_some_iff, Part.mem_map_iff] at h
      obtain ⟨⟨ended?, ended, sink''⟩, hdeflate, htrailer⟩ := h
      obtain ⟨_, _, _, hkeeps⟩ := deflate_keeps (Part.eq_some_iff.mpr hdeflate)
      -- the header is taken care of whether the sink takes the end or not
      cases ended? with
      | error cause =>
        obtain rfl : ended = s' := congrArg (fun r => r.2.1) htrailer
        rw [show ended = _ from hkeeps]
        exact ⟨hlevel, hheader⟩
      | ok =>
        obtain rfl : { ended with finished := true } = s' := congrArg (fun r => r.2.1) htrailer
        rw [show ended = _ from hkeeps]
        exact ⟨hlevel, hheader⟩

/-- Any operations on it, one after the other. -/
theorem Lived.performedAll {level : Nat} {operations : List GzipStream.Operation}
    {s s' : ChunkedStream κ} (h : Lived level s) {sink sink' : σ}
    {results : List (Except StreamError Unit)}
    (hperform : performAll operations s sink = .some (results, s', sink')) : Lived level s' := by
  induction operations generalizing s sink results with
  | nil =>
    have hsame : s = s' := congrArg (fun r => r.2.1) (Part.some_inj.mp hperform)
    rwa [← hsame]
  | cons operation operations ih =>
    obtain ⟨result, s₁, sink₁, later, hfirst, hrest, -⟩ := performAll_cons_iff.mp hperform
    exact ih (h.performed hfirst) hrest

theorem Lived.level_eq {level : Nat} {s : ChunkedStream κ} (h : Lived level s) :
    s.level = level := by
  induction h with
  | new => rfl
  | performed h hperform ih =>
    obtain rfl | ⟨hlevel, -⟩ := perform_keeps hperform
    · exact ih
    · exact hlevel.trans ih
  | reset h ih => exact ih

/-- **A pristine stream** is new, but for the capacity of its buffer. -/
theorem Lived.eq_new {level : Nat} {s : ChunkedStream κ} (h : Lived level s)
    (hpristine : s.isPristine = true) :
    s = { ChunkedStream.new level with capacity := s.capacity } := by
  induction h with
  | new => rfl
  | performed h hperform ih =>
    obtain rfl | ⟨-, hheader⟩ := perform_keeps hperform
    · exact ih hpristine
    · rw [isPristine, hheader] at hpristine
      exact absurd hpristine Bool.false_ne_true
  | @reset s h ih =>
    rw [ChunkedStream.reset, Compressor.reset_eq, h.level_eq]
    rfl

/-! ### The course of a stream -/

/-- **The course of a stream** that is pristine and makes its calls one by one, over a sink that
never fails, whatever is asked of it in whatever order and however many calls that takes. Each
operation comes to an end, and after the first `finish` neither stream nor sink change any more. A
stream that leaves its calls to an encoder has the same results and gives out the same. -/
theorem performAll_follows_course (hκ : Sound κ) {level : Nat} {s : ChunkedStream κ}
    (hs : Lived level s) (hpristine : s.isPristine = true) {sink : σ}
    (hsink : Sink.NeverFails sink) (operations : List GzipStream.Operation) :
    let encoded := Deflater.run (Deflater.start level : Driven κ s.capacity)
      (GzipStream.Operation.requests operations)
    let above := GzipStream.performAll operations (.new level : GzipStream (Driven κ s.capacity))
      ({ sink } : Traced σ)
    ∃ results s' t', performAll operations s ({ sink } : Traced σ) = .some (results, s', t') ∧
      GzipStream.Course operations encoded.2 (encoded.2 ++ (Deflater.finish encoded.1).2) results
        t'.body ∧
      (.finish ∈ operations → ∃ earlier,
        performAll (GzipStream.Operation.before operations ++ [.finish]) s ({ sink } : Traced σ)
          = .some (earlier, s', t')) ∧
      results = above.1 ∧ s'.view s.capacity = above.2.1 ∧ t'.body = above.2.2.body := by
  intro encoded above
  have hcourse (operations : List GzipStream.Operation) :=
    GzipStream.performAll_course (hκ.endsDecodable s.capacity) level hsink operations
  have hnew := hs.eq_new hpristine
  have hview : s.view s.capacity = .new level := by
    rw [hnew]
    rfl
  have hbetween : s.Between := by
    refine ⟨?_, fun _ => ⟨level, [], [], ?_⟩⟩
    · rw [hnew]
      rfl
    · rw [hnew]
      exact .start
  obtain ⟨P, hP, hsink⟩ := hsink
  -- both are made new for the comparison, with sinks that have received nothing
  have hagree (operations : List GzipStream.Operation) :
      let above := GzipStream.performAll operations (.new level : GzipStream (Driven κ s.capacity))
        ({ sink } : Traced σ)
      ∃ results s' t', performAll operations s ({ sink } : Traced σ) = .some (results, s', t') ∧
        results = above.1 ∧ s'.view s.capacity = above.2.1 ∧ t'.body = above.2.2.body := by
    intro above
    obtain ⟨results, s', t', u', hleft, habove, hbody⟩ :=
      performAll_view hκ hP operations hbetween (t := ({ sink } : Traced σ))
        (u := ({ sink } : Traced σ)) hsink hsink rfl s.capacity
    rw [hview] at habove
    rw [show above = _ from habove]
    exact ⟨results, s', t', hleft, rfl, rfl, hbody⟩
  obtain ⟨results, s', t', hleft, hresults, hstream, hbody⟩ := hagree operations
  refine ⟨results, s', t', hleft, ?_, fun hmem => ?_, hresults, hstream, hbody⟩
  · rw [hresults, hbody]
    exact (hcourse operations).1
  · obtain ⟨-, hnever⟩ | ⟨later, hend, -⟩ := GzipStream.Operation.fromEnd_cases operations
    · exact absurd hmem hnever
    · let ended := GzipStream.Operation.before operations ++ [.finish]
      have hsplit : operations = ended ++ later := by
        rw [List.append_assoc, List.singleton_append, ← hend,
          GzipStream.Operation.before_append_fromEnd]
      obtain ⟨earlier, s'', t'', hearlier, -, hview', -⟩ := hagree ended
      have hfinished : s''.finished = true := by
        have habove := (hcourse ended).2 (List.mem_append_right _ List.mem_cons_self)
        rw [← hview'] at habove
        exact habove
      -- what comes after the end changes nothing
      have hall := performAll_append hearlier (performAll_finished hfinished later t'')
      rw [← hsplit, hleft] at hall
      obtain ⟨-, hlast⟩ := Prod.mk.inj (Part.some_inj.mp hall)
      exact ⟨earlier, hlast ▸ hearlier⟩

/-- A stream that was used before and reset. It is flushed first, nothing is written and then more
than there is room for at once, and after the end it is used on. The sink takes one byte and then
has to be asked again. -/
theorem performAll_follows_course_reset :
    let data : Bytes := List.replicate 20000 7
    let sink : ScriptedSink := { writes := [.accept 1, .interrupt "again", .accept 3] }
    ∃ (earlier : List (Except StreamError Unit)) (used : ChunkedStream (Metered StoredBlocks))
      (before : Traced ScriptedSink),
      performAll [.write [9, 9], .finish] (.new 6) { sink := {} } = .some (earlier, used, before) ∧
      ∃ results s' t', performAll
          [.flush, .write [], .write data, .finish, .write [3], .flush, .finish]
          used.reset ({ sink } : Traced ScriptedSink) = .some (results, s', t') ∧
        results = [.ok (), .ok (), .ok (), .ok (), .error .alreadyFinished,
          .error .alreadyFinished, .ok ()] ∧
        Member.decode? t'.body = some data := by
  intro data sink
  have hκ := Metered.sound (Deflater.endsDecodable StoredBlocks)
  obtain ⟨earlier, used, before, hbefore, -⟩ := performAll_follows_course hκ
    (.new : Lived 6 (.new 6)) rfl (ScriptedSink.neverFails (s := {}) (by simp))
    [.write [9, 9], .finish]
  refine ⟨earlier, used, before, hbefore, ?_⟩
  have hused : Lived 6 used.reset := (Lived.new.performedAll hbefore).reset
  have hsink : Sink.NeverFails sink := ScriptedSink.neverFails (by simp [sink])
  obtain ⟨results, s', t', hperform, hcourse, -⟩ := performAll_follows_course hκ hused rfl hsink
    [.flush, .write [], .write data, .finish, .write [3], .flush, .finish]
  have hentered : GzipStream.Operation.entered
      [.flush, .write [], .write data, .finish, .write [3], .flush, .finish] = data := by
    simp [GzipStream.Operation.entered, GzipStream.Operation.requests, GzipStream.Operation.before,
      GzipStream.Operation.request?, Deflater.Request.input]
  refine ⟨results, s', t', hperform, hcourse.results_eq, ?_⟩
  rw [← hentered]
  exact hcourse.decode (by simp)

end ChunkedStream

end HttpPipeline
