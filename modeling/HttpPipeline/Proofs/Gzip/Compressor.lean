import HttpPipeline.Gzip.Chunked
import HttpPipeline.Proofs.Gzip.Member

/-!
# Correct compressors

An operation makes its calls with room for a chunk at least, and nothing is said of any others. Such
calls do not fail before the end of a stream. A compressor is correct (`Compressor.Sound`) if, when
it reports the end, its output over all calls decodes to its input over all calls, and if one cannot
go on forever with calls of which none is the last of its operation. It is correct at a flush
(`Compressor.Syncs`) if the same can be said of the output up to the last call of a flush, except
that the stream is still open.

The calls of an operation go on until one is the last, and before each of them the buffer that they
fill is drained if it holds a chunk. As long as draining does not fail, the sink has no say in this,
so the calls can be followed without it (`Compressor.drive`). They come to an end, have handed over
all input in its order by then, and bring about the end that was asked for
(`Compressor.exists_drive_run`, `Compressor.exists_drive_finish`).

Hence a compressor and a buffer are an encoder (`Compressor.Driven`), which is correct if the
compressor is (`Compressor.Sound.endsDecodable`, `Compressor.Sound.syncDecodable`). In the other
direction, metering an encoder that is correct makes it a compressor that is (`Metered.sound`,
`Metered.syncs`).
-/

namespace HttpPipeline

namespace Compressor

/-! ### Correct compressors -/

section Sound

variable {κ : Type} [Compressor κ]

/-- **Before the end**: states of a compressor after some calls that did not ask for the end, with
what it has taken in and what it has given out. -/
inductive Reached (level : Nat) : κ → Bytes → Bytes → Prop
  | start : Reached level (Compressor.start level) [] []
  | call {k : κ} {taken given : Bytes} (h : Reached level k taken given) {mode : Mode}
    (hmode : mode ≠ .finish) (input : Bytes) {room : Nat} (hroom : ChunkedStream.chunk ≤ room) :
    Reached level (compress k mode input room).state
      (taken ++ input.take (totalIn (compress k mode input room).state - totalIn k))
      (given ++ (compress k mode input room).out)

/-- **On the way to the end**: the same after some more calls that asked for it and have not brought
it about. -/
inductive Ending (level : Nat) : κ → Bytes → Bytes → Prop
  | asked {k : κ} {taken given : Bytes} (h : Reached level k taken given) :
    Ending level k taken given
  | call {k : κ} {taken given : Bytes} (h : Ending level k taken given) {room : Nat}
    (hroom : ChunkedStream.chunk ≤ room)
    (hopen : (compress k .finish [] room).result ≠ .ok .streamEnd) :
    Ending level (compress k .finish [] room).state taken
      (given ++ (compress k .finish [] room).out)

/-- **One call more**: a compressor and the input that is left for it, after a call that was not the
last of its operation and before that call. -/
def Further (mode : Mode) (later earlier : κ × Bytes) : Prop :=
  ∃ (room : Nat) (status : Status), ChunkedStream.chunk ≤ room ∧
    let answer := compress earlier.1 mode earlier.2 room
    let left := earlier.2.drop (totalIn answer.state - totalIn earlier.1)
    answer.result = .ok status ∧ ¬status.isLast mode left (answer.out.length < room) = true ∧
      later = (answer.state, left)

/-- **A correct compressor.** -/
structure Sound (κ : Type) [Compressor κ] : Prop where
  /-- A call before the end succeeds, and does not end the stream. -/
  runs : ∀ {level : Nat} {k : κ} {taken given : Bytes}, Reached level k taken given →
    ∀ {mode : Mode}, mode ≠ .finish → ∀ (input : Bytes) {room : Nat}, ChunkedStream.chunk ≤ room →
    ∃ status, (compress k mode input room).result = .ok status ∧ status ≠ .streamEnd
  /-- An operation does not take calls without end. -/
  stops : ∀ {level : Nat} {k : κ} {taken given : Bytes}, Reached level k taken given →
    ∀ {mode : Mode}, mode ≠ .finish → ∀ input : Bytes, Acc (Further mode) (k, input)
  /-- A call that asks for the end succeeds, whether it brings it about or not. -/
  ends : ∀ {level : Nat} {k : κ} {taken given : Bytes}, Ending level k taken given →
    ∀ {room : Nat}, ChunkedStream.chunk ≤ room →
    ∃ status, (compress k .finish [] room).result = .ok status
  /-- The end does not take calls without end. -/
  arrives : ∀ {level : Nat} {k : κ} {taken given : Bytes}, Ending level k taken given →
    Acc (Further .finish) (k, [])
  /-- At the end all that was given out decodes to all that was taken in. -/
  decodes : ∀ {level : Nat} {k : κ} {taken given : Bytes}, Ending level k taken given →
    ∀ {room : Nat}, ChunkedStream.chunk ≤ room →
    (compress k .finish [] room).result = .ok .streamEnd →
    ∀ rest : Bytes, inflate (given ++ (compress k .finish [] room).out ++ rest)
      = (taken, .ended rest)

/-- **A compressor that is correct at a flush.** After the last call of a flush, all that was given
out decodes to all that was taken in, and the stream is open. -/
def Syncs (κ : Type) [Compressor κ] : Prop :=
  ∀ {level : Nat} {k : κ} {taken given : Bytes}, Reached level k taken given →
    ∀ (input : Bytes) {room : Nat} {status : Status}, ChunkedStream.chunk ≤ room →
    let answer := compress k .sync input room
    let left := input.drop (totalIn answer.state - totalIn k)
    answer.result = .ok status → status.isLast .sync left (answer.out.length < room) = true →
    inflate (given ++ answer.out) = (taken ++ input, .truncated)

end Sound

/-! ### The calls of an operation -/

/-- What the calls of an operation come to. -/
structure Outcome (κ : Type) where
  result : Except String Unit
  compressor : κ
  capacity : Nat
  out : Bytes

/-- An operation between two of its calls. -/
structure Underway (κ : Type) where
  compressor : κ
  /-- The input that was not taken in yet. -/
  left : Bytes
  /-- How much is in the buffer. -/
  buffered : Nat
  capacity : Nat
  /-- What all calls so far have given out. -/
  out : Bytes

/-- How much is in a buffer after it was drained if it holds a chunk. -/
def keep (buffered : Nat) : Nat := if ChunkedStream.chunk ≤ buffered then 0 else buffered

variable {κ : Type} [Compressor κ]

namespace Underway

variable (u : Underway κ) (mode : Mode)

/-- The room for the next call. -/
def room : Nat := ChunkedStream.reserved u.capacity u.buffered - u.buffered

/-- What comes of the next call. -/
def answer : Answer κ := compress u.compressor mode u.left u.room

/-- The input that is left after the next call. -/
def rest : Bytes := u.left.drop (totalIn (u.answer mode).state - totalIn u.compressor)

/-- The operation after a call that is not the last. -/
def next : Underway κ where
  compressor := (u.answer mode).state
  left := u.rest mode
  buffered := keep (u.buffered + (u.answer mode).out.length)
  capacity := ChunkedStream.reserved u.capacity u.buffered
  out := u.out ++ (u.answer mode).out

/-- An operation that has ended with its next call. -/
def ended (result : Except String Unit) : Outcome κ where
  result
  compressor := (u.answer mode).state
  capacity := ChunkedStream.reserved u.capacity u.buffered
  out := u.out ++ (u.answer mode).out

/-- One call, with a buffer that is always drained. -/
def call : Outcome κ ⊕ Underway κ :=
  match (u.answer mode).result with
  | .error message => .inl (u.ended mode (.error message))
  | .ok status =>
    if status.isLast mode (u.rest mode) ((u.answer mode).out.length < u.room) then
      .inl (u.ended mode (.ok ()))
    else .inr (u.next mode)

omit [Compressor κ] in
theorem chunk_le_room : ChunkedStream.chunk ≤ u.room :=
  ChunkedStream.chunk_le_reserved u.capacity u.buffered

variable {u mode} {status : Status} (hresult : (u.answer mode).result = .ok status)

include hresult

theorem call_of_last
    (hlast : status.isLast mode (u.rest mode) ((u.answer mode).out.length < u.room) = true) :
    u.call mode = .inl (u.ended mode (.ok ())) := by
  simp only [call, hresult, if_pos hlast]

theorem call_of_not_last
    (hlast : ¬status.isLast mode (u.rest mode) ((u.answer mode).out.length < u.room) = true) :
    u.call mode = .inr (u.next mode) := by
  simp only [call, hresult, if_neg hlast]

theorem further_next
    (hlast : ¬status.isLast mode (u.rest mode) ((u.answer mode).out.length < u.room) = true) :
    Further mode ((u.next mode).compressor, (u.next mode).left) (u.compressor, u.left) :=
  ⟨u.room, status, u.chunk_le_room, hresult, hlast, rfl⟩

end Underway

/-- **The calls of an operation**, with a buffer that is always drained. -/
def drive (k : κ) (mode : Mode) (input : Bytes) (buffered capacity : Nat) : Part (Outcome κ) :=
  loop (Underway.call · mode) ⟨k, input, buffered, capacity, []⟩

theorem Status.isLast_of_ne {status : Status} (h : status ≠ .streamEnd) (mode : Mode) (left : Bytes)
    (roomLeft : Bool) :
    status.isLast mode left roomLeft = (left.isEmpty && roomLeft && mode != .finish) := by
  cases status with
  | streamEnd => exact absurd rfl h
  | ok => rfl
  | bufferError => rfl

/-- The last call before the end leaves nothing over. -/
theorem Status.left_eq_nil {status : Status} (h : status ≠ .streamEnd) {mode : Mode} {left : Bytes}
    {roomLeft : Bool} (hlast : status.isLast mode left roomLeft = true) : left = [] := by
  rw [isLast_of_ne h, Bool.and_eq_true, Bool.and_eq_true] at hlast
  exact List.isEmpty_iff.mp hlast.1.1

/-- The last call that asks for the end brings it about. -/
theorem Status.eq_streamEnd {status : Status} {left : Bytes} {roomLeft : Bool}
    (hlast : status.isLast .finish left roomLeft = true) : status = .streamEnd := by
  by_contra hopen
  rw [isLast_of_ne hopen, Bool.and_eq_true] at hlast
  exact absurd hlast.2 Bool.false_ne_true

/-- A call takes in a part of the input that is left, and leaves the rest. -/
theorem Reached.answer {level : Nat} {mode : Mode} (hmode : mode ≠ .finish) {u : Underway κ}
    {taken given : Bytes} (h : Reached level u.compressor taken (given ++ u.out)) :
    ∃ entered, entered ++ u.rest mode = u.left ∧
      Reached level (u.answer mode).state (taken ++ entered)
        (given ++ (u.out ++ (u.answer mode).out)) := by
  refine ⟨_, List.take_append_drop _ _, ?_⟩
  rw [← List.append_assoc given]
  exact h.call hmode u.left u.chunk_le_room

/-- **The calls of an operation that does not ask for the end** take in all input that is left. -/
theorem turns_run (hκ : Sound κ) {level : Nat} {mode : Mode} (hmode : mode ≠ .finish)
    {u : Underway κ} {taken given : Bytes} (h : Reached level u.compressor taken (given ++ u.out)) :
    ∃ o, Turns (Underway.call · mode) u o ∧ o.result = .ok () ∧
      Reached level o.compressor (taken ++ u.left) (given ++ o.out) ∧
      (mode = .sync → Syncs κ → inflate (given ++ o.out) = (taken ++ u.left, .truncated)) := by
  -- on the calls, which do not go on forever
  generalize hstate : (u.compressor, u.left) = state
  have hstops : Acc (Further mode) state := hstate ▸ hκ.stops h hmode u.left
  induction hstops generalizing u taken with
  | intro state _ ih =>
    subst hstate
    obtain ⟨status, hresult, hopen⟩ : ∃ status, (u.answer mode).result = .ok status ∧ _ :=
      hκ.runs h hmode u.left u.chunk_le_room
    obtain ⟨entered, hleft, hnext⟩ := h.answer hmode
    by_cases hlast :
        status.isLast mode (u.rest mode) ((u.answer mode).out.length < u.room) = true
    · refine ⟨_, .last (Underway.call_of_last hresult hlast), rfl, ?_, ?_⟩
      · -- nothing is left after the last call
        rw [Status.left_eq_nil hopen hlast, List.append_nil] at hleft
        rwa [hleft] at hnext
      · rintro rfl hsyncs
        have hdecodes := hsyncs h u.left u.chunk_le_room hresult hlast
        rwa [List.append_assoc] at hdecodes
    · obtain ⟨o, hturns, hok, hreached, hsync⟩ :=
        ih _ (Underway.further_next hresult hlast) (u := u.next mode) hnext rfl
      have hall : taken ++ entered ++ (u.next mode).left = taken ++ u.left := by
        rw [List.append_assoc, ← hleft]
        rfl
      rw [hall] at hreached hsync
      exact ⟨o, .more (Underway.call_of_not_last hresult hlast) hturns, hok, hreached, hsync⟩

/-- **The calls of an operation that asks for the end** bring it about. -/
theorem turns_finish (hκ : Sound κ) {level : Nat} {u : Underway κ} {taken given : Bytes}
    (h : Ending level u.compressor taken (given ++ u.out)) (hnil : u.left = []) :
    ∃ o, Turns (Underway.call · .finish) u o ∧ o.result = .ok () ∧
      ∀ rest, inflate (given ++ o.out ++ rest) = (taken, .ended rest) := by
  -- on the order in which a compressor gets nearer to its end
  generalize hstate : (u.compressor, u.left) = state
  have harrives : Acc (Further .finish) state := by
    rw [← hstate, hnil]
    exact hκ.arrives h
  induction harrives generalizing u with
  | intro state _ ih =>
    subst hstate
    have hanswer : u.answer .finish = compress u.compressor .finish [] u.room := by
      rw [Underway.answer, hnil]
    obtain ⟨status, hresult⟩ := hκ.ends h u.chunk_le_room
    rw [← hanswer] at hresult
    by_cases hlast :
        status.isLast .finish (u.rest .finish) ((u.answer .finish).out.length < u.room) = true
    · refine ⟨_, .last (Underway.call_of_last hresult hlast), rfl, fun rest => ?_⟩
      rw [Status.eq_streamEnd hlast, hanswer] at hresult
      have hdecodes := hκ.decodes h u.chunk_le_room hresult rest
      rwa [← hanswer, List.append_assoc given] at hdecodes
    -- the call was not the last, so the end was not reached and there is a further one
    · have hopen : (u.answer .finish).result ≠ .ok .streamEnd := by
        rw [hresult]
        intro hend
        rw [Except.ok.inj hend] at hlast
        exact hlast rfl
      rw [hanswer] at hopen
      have hnext := h.call u.chunk_le_room hopen
      rw [← hanswer, List.append_assoc] at hnext
      obtain ⟨o, hturns, hok, hdecodes⟩ := ih _ (Underway.further_next hresult hlast)
        (u := u.next .finish) hnext (by rw [Underway.next, Underway.rest, hnil, List.drop_nil]) rfl
      exact ⟨o, .more (Underway.call_of_not_last hresult hlast) hturns, hok, hdecodes⟩

/-- **An operation that does not ask for the end** has a last call, and takes in all of its input.
-/
theorem exists_drive_run (hκ : Sound κ) {level : Nat} {k : κ} {taken given : Bytes}
    (h : Reached level k taken given) {mode : Mode} (hmode : mode ≠ .finish) (input : Bytes)
    (buffered capacity : Nat) :
    ∃ o, drive k mode input buffered capacity = .some o ∧ o.result = .ok () ∧
      Reached level o.compressor (taken ++ input) (given ++ o.out) ∧
      (mode = .sync → Syncs κ → inflate (given ++ o.out) = (taken ++ input, .truncated)) := by
  rw [← List.append_nil given] at h
  obtain ⟨o, hturns, hrest⟩ := turns_run hκ hmode (u := ⟨k, input, buffered, capacity, []⟩) h
  exact ⟨o, loop_eq_some_iff.mpr hturns, hrest⟩

/-- **An operation that asks for the end** brings it about. -/
theorem exists_drive_finish (hκ : Sound κ) {level : Nat} {k : κ} {taken given : Bytes}
    (h : Ending level k taken given) (buffered capacity : Nat) :
    ∃ o, drive k .finish [] buffered capacity = .some o ∧ o.result = .ok () ∧
      ∀ rest, inflate (given ++ o.out ++ rest) = (taken, .ended rest) := by
  rw [← List.append_nil given] at h
  obtain ⟨o, hturns, hok, hdecodes⟩ :=
    turns_finish hκ (u := ⟨k, [], buffered, capacity, []⟩) h rfl
  exact ⟨o, loop_eq_some_iff.mpr hturns, hok, hdecodes⟩

/-! ### A compressor and a buffer as an encoder -/

/-- **A compressor with its buffer**, which has been given a capacity beforehand. -/
structure Driven (κ : Type) (given : Nat) where
  compressor : κ
  /-- How much is in the buffer when the next operation begins. -/
  buffered : Nat
  capacity : Nat

variable {room : Nat}

/-- **What one operation does.** After it the buffer is empty. -/
noncomputable def Driven.operate (e : Driven κ room) (mode : Mode) (input : Bytes) :
    Driven κ room × Bytes :=
  open Classical in
  match (drive e.compressor mode input e.buffered e.capacity).toOption with
  | some o => (⟨o.compressor, 0, o.capacity⟩, o.out)
  -- an encoder always has an answer, which here is none
  | none => (e, [])

theorem Driven.operate_eq {e : Driven κ room} {mode : Mode} {input : Bytes} {o : Outcome κ}
    (h : drive e.compressor mode input e.buffered e.capacity = .some o) :
    e.operate mode input = (⟨o.compressor, 0, o.capacity⟩, o.out) := by
  simp only [operate, h, Part.some_toOption]

noncomputable instance : Deflater (Driven κ room) where
  -- the header of the member is in the buffer before the first operation
  start level := ⟨Compressor.start level, Member.header.length, room⟩
  push e data := e.operate .run data
  sync e := e.operate .sync []
  finish e := e.operate .finish []
  reset level e := ⟨Compressor.reset level e.compressor, Member.header.length, room⟩
  reset_eq level e := by rw [Compressor.reset_eq]

/-- An operation that does not ask for the end. -/
theorem Reached.operate (hκ : Sound κ) {level : Nat} {e : Driven κ room} {taken given : Bytes}
    (h : Reached level e.compressor taken given) {mode : Mode} (hmode : mode ≠ .finish)
    (input : Bytes) :
    Reached level (e.operate mode input).1.compressor (taken ++ input)
        (given ++ (e.operate mode input).2) ∧
      (mode = .sync → Syncs κ →
        inflate (given ++ (e.operate mode input).2) = (taken ++ input, .truncated)) := by
  obtain ⟨o, hdrive, -, hrest⟩ := exists_drive_run hκ h hmode input e.buffered e.capacity
  rw [Driven.operate_eq hdrive]
  exact hrest

theorem Reached.serve (hκ : Sound κ) {level : Nat} {e : Driven κ room} {taken given : Bytes}
    (h : Reached level e.compressor taken given) (request : Deflater.Request) :
    Reached level (Deflater.serve e request).1.compressor (taken ++ request.input)
      (given ++ (Deflater.serve e request).2) := by
  cases request with
  | push data => exact (h.operate hκ (by decide) data).1
  | sync => exact (h.operate hκ (by decide) []).1

theorem Reached.run (hκ : Sound κ) {level : Nat} {e : Driven κ room} {taken given : Bytes}
    (h : Reached level e.compressor taken given) (requests : List Deflater.Request) :
    Reached level (Deflater.run e requests).1.compressor
      (taken ++ requests.flatMap Deflater.Request.input)
      (given ++ (Deflater.run e requests).2) := by
  induction requests generalizing e taken given with
  | nil =>
    rw [List.flatMap_nil, List.append_nil, Deflater.run, List.append_nil]
    exact h
  | cons request requests ih =>
    have hrest := ih (h.serve hκ request)
    rw [List.append_assoc, List.append_assoc] at hrest
    exact hrest

/-- What was asked of an encoder before the end. -/
theorem Sound.reached_run (hκ : Sound κ) (room level : Nat) (requests : List Deflater.Request) :
    let (e, out) := Deflater.run (Deflater.start level : Driven κ room) requests
    Reached level e.compressor (requests.flatMap Deflater.Request.input) out :=
  Reached.run hκ (e := (Deflater.start level : Driven κ room)) .start requests

/-- **A correct compressor with its buffer** is an encoder that is correct at the end. -/
theorem Sound.endsDecodable (hκ : Sound κ) (room : Nat) :
    Deflater.EndsDecodable (Driven κ room) := by
  intro level requests rest
  let e : Driven κ room := (Deflater.run (Deflater.start level) requests).1
  obtain ⟨o, hdrive, -, hdecodes⟩ :=
    exists_drive_finish hκ (.asked (hκ.reached_run room level requests)) e.buffered e.capacity
  rw [show (Deflater.finish e).2 = o.out from congrArg Prod.snd (Driven.operate_eq hdrive)]
  exact hdecodes rest

/-- It is correct at a flush if the compressor is. -/
theorem Sound.syncDecodable (hκ : Sound κ) (hsyncs : Syncs κ) (room : Nat) :
    Deflater.SyncDecodable (Driven κ room) := by
  intro level requests
  have hmode : Mode.sync ≠ .finish := by decide
  obtain ⟨-, hsync⟩ := (hκ.reached_run room level requests).operate hκ hmode []
  have hdecodes := hsync rfl hsyncs
  rw [List.append_nil] at hdecodes
  rw [Deflater.run_append, ← hdecodes]
  simp [Deflater.run, Deflater.serve, Deflater.sync]

end Compressor

/-! ### Encoders as compressors -/

namespace Metered

open Compressor (Mode Reached Ending Sound)

variable {ε : Type} [Deflater ε] {level : Nat} {m : Metered ε} {taken given : Bytes}

/-- **Before the end**, the encoder was asked for what is taken in, and what it has given out is
handed out or pending. -/
structure Serves (level : Nat) (m : Metered ε) (taken given : Bytes) : Prop where
  ended : m.ended = false
  requests : ∃ requests, m.encoder = (Deflater.run (Deflater.start level) requests).1 ∧
    given ++ m.pending = (Deflater.run (Deflater.start level : ε) requests).2 ∧
    requests.flatMap Deflater.Request.input = taken ∧
    -- a flush has nothing to add right after a flush
    (m.synced = true → ∃ earlier, requests = earlier ++ [.sync])

theorem Serves.request (h : Serves level m taken given) (request : Deflater.Request)
    {next : Metered ε} (hended : next.ended = false)
    (hencoder : next.encoder = (Deflater.serve m.encoder request).1)
    (hpending : next.pending = m.pending ++ (Deflater.serve m.encoder request).2)
    (hsynced : next.synced = true → request = .sync) :
    Serves level next (taken ++ request.input) given := by
  obtain ⟨requests, hrun, hout, htaken, -⟩ := h.requests
  refine ⟨hended, requests ++ [request], ?_, ?_, ?_, fun h => ⟨requests, by rw [hsynced h]⟩⟩
  · rw [hencoder, hrun, Deflater.run_append]
    rfl
  · rw [hpending, ← List.append_assoc, hout, hrun, Deflater.run_append]
    simp [Deflater.run]
  · rw [List.flatMap_append, htaken, List.flatMap_singleton]

theorem Serves.takeIn (h : Serves level m taken given) (input : Bytes) :
    Serves level (m.takeIn input) (taken ++ input) given := by
  unfold Metered.takeIn
  split
  · rename_i hempty
    rwa [List.isEmpty_iff.mp hempty, List.append_nil]
  · exact h.request (.push input) h.ended rfl rfl fun hsynced => absurd hsynced Bool.false_ne_true

theorem Serves.ask (h : Serves level m taken given) {mode : Mode} (hmode : mode ≠ .finish) :
    Serves level (m.ask mode) taken given := by
  cases mode with
  | run => exact h
  | sync =>
    simp only [Metered.ask]
    split
    · exact h
    · let next : Metered ε := { m with
        encoder := (Deflater.sync m.encoder).1
        pending := m.pending ++ (Deflater.sync m.encoder).2
        synced := true }
      have hsync : Serves level next (taken ++ Deflater.Request.sync.input) given :=
        h.request .sync h.ended rfl rfl fun _ => rfl
      rwa [Deflater.Request.input, List.append_nil] at hsync
  | finish => exact absurd rfl hmode

theorem Serves.handOut (h : Serves level m taken given) (mode : Mode) (room : Nat) :
    Serves level (m.handOut mode room).state taken (given ++ (m.handOut mode room).out) := by
  obtain ⟨requests, hrun, hout, htaken, hsynced⟩ := h.requests
  refine ⟨h.ended, requests, hrun, ?_, htaken, hsynced⟩
  rw [Metered.handOut, List.append_assoc, List.take_append_drop, hout]

/-- A call takes in all of its input. -/
theorem entered_compress (m : Metered ε) (mode : Mode) (input : Bytes) (room : Nat) :
    Compressor.totalIn (Compressor.compress m mode input room).state - Compressor.totalIn m
      = input.length := by
  show ((m.takeIn input).ask mode).taken - m.taken = input.length
  rw [ask_taken, takeIn_taken, Nat.add_sub_cancel_left]

theorem reached_serves (h : Reached level m taken given) : Serves level m taken given := by
  induction h with
  | start => exact ⟨rfl, [], rfl, rfl, rfl, fun h => absurd h Bool.false_ne_true⟩
  | @call m taken given h mode hmode input room hroom ih =>
    rw [entered_compress, List.take_length]
    exact ((ih.takeIn input).ask hmode).handOut mode room

/-- **On the way to the end**, once the encoder is asked for it, all of its output is handed out or
pending. -/
theorem ending_pending (h : Ending level m taken given) :
    ∃ requests, given ++ (m.ask .finish).pending
        = (Deflater.run (Deflater.start level : ε) requests).2
          ++ (Deflater.finish (Deflater.run (Deflater.start level : ε) requests).1).2 ∧
      requests.flatMap Deflater.Request.input = taken := by
  induction h with
  | @asked m taken given h =>
    obtain ⟨hopen, requests, hrun, hout, htaken, -⟩ := reached_serves h
    refine ⟨requests, ?_, htaken⟩
    rw [Metered.ask, if_neg (Bool.eq_false_iff.mp hopen), ← hout, ← hrun, List.append_assoc]
  | @call m taken given h room hroom hopen ih =>
    obtain ⟨requests, hpending, htaken⟩ := ih
    refine ⟨requests, ?_, htaken⟩
    have hasked : ((Compressor.compress m .finish [] room).state.ask .finish).pending
        = (m.ask .finish).pending.drop room := congrArg Metered.pending (ask_drop m .finish room)
    have hout : (Compressor.compress m .finish [] room).out = (m.ask .finish).pending.take room :=
      rfl
    rw [hasked, hout, List.append_assoc, List.take_append_drop, hpending]

/-! #### The last call -/

/-- **A call that is not the last** of its operation leaves less pending. -/
theorem pending_lt_of_further {mode : Mode} {later earlier : Metered ε × Bytes}
    (h : Compressor.Further mode later earlier) :
    ((later.1.takeIn later.2).ask mode).pending.length
      < ((earlier.1.takeIn earlier.2).ask mode).pending.length := by
  obtain ⟨room, status, hroom, hresult, hlast, rfl⟩ := h
  obtain ⟨m, input⟩ := earlier
  rw [entered_compress, List.drop_length] at hlast ⊢
  let asked : Metered ε := (m.takeIn input).ask mode
  obtain rfl :
    (if mode = .finish ∧ asked.pending.length ≤ room then Compressor.Status.streamEnd else .ok)
    = status := Except.ok.inj hresult
  -- more is pending than there is room for, or the room is just filled
  have hpending : room ≤ asked.pending.length := by
    by_contra hless
    have hout : (Compressor.compress m mode input room).out.length < room := by
      show (asked.pending.take room).length < room
      rw [List.length_take]
      omega
    by_cases hfinish : mode = .finish
    · rw [if_pos ⟨hfinish, Nat.le_of_not_le hless⟩] at hlast
      exact hlast rfl
    · rw [if_neg fun h => hfinish h.1] at hlast
      exact hlast (by simp [Compressor.Status.isLast, hout, hfinish])
  have hdrop : ((Compressor.compress m mode input room).state.takeIn []).ask mode
      = { asked with pending := asked.pending.drop room } := by
    rw [Metered.takeIn, if_pos List.isEmpty_nil]
    exact ask_drop (m.takeIn input) mode room
  have hchunk : 0 < ChunkedStream.chunk := by decide
  show (((Compressor.compress m mode input room).state.takeIn []).ask mode).pending.length
    < asked.pending.length
  rw [hdrop, List.length_drop]
  omega

theorem acc_further (mode : Mode) (state : Metered ε × Bytes) :
    Acc (Compressor.Further mode) state :=
  (Subrelation.wf pending_lt_of_further (measure fun state : Metered ε × Bytes =>
    ((state.1.takeIn state.2).ask mode).pending.length).wf).apply state

/-- **A correct encoder**, metered, is a correct compressor. -/
theorem sound (hε : Deflater.EndsDecodable ε) : Sound (Metered ε) where
  runs := by
    intro level m taken given h mode hmode input room hroom
    refine ⟨.ok, ?_, fun h => Compressor.Status.noConfusion h⟩
    exact congrArg Except.ok (if_neg fun hend => hmode hend.1)
  stops := fun _ _ _ _ => acc_further _ _
  ends := fun _ _ _ => ⟨_, rfl⟩
  arrives := fun _ => acc_further _ _
  decodes := by
    intro level m taken given h room hroom hend rest
    obtain ⟨requests, hpending, htaken⟩ := ending_pending h
    -- the end is reported when all that is pending is handed out
    have hfits : (m.ask .finish).pending.length ≤ room := by
      by_contra hmore
      have hopen : (Compressor.compress m .finish [] room).result = .ok .ok :=
        congrArg Except.ok (if_neg fun h => hmore h.2)
      cases hopen.symm.trans hend
    have hout : (Compressor.compress m .finish [] room).out = (m.ask .finish).pending :=
      List.take_of_length_le hfits
    rw [hout, hpending, hε level requests rest, htaken]

/-- An encoder that is correct at a flush is so as a compressor. -/
theorem syncs (hε : Deflater.SyncDecodable ε) : Compressor.Syncs (Metered ε) := by
  intro level m taken given h input room status hroom answer left hresult hlast
  let asked : Metered ε := (m.takeIn input).ask .sync
  obtain ⟨-, requests, hrun, hout, htaken, hflushed⟩ :=
    ((reached_serves h).takeIn input).ask (show Mode.sync ≠ .finish by decide)
  obtain ⟨earlier, rfl⟩ := hflushed (m.takeIn input).synced_ask
  -- there is room left, so that all that was pending is handed out
  have hfits : asked.pending.length ≤ room := by
    obtain rfl : Compressor.Status.ok = status := by
      have hok : answer.result = .ok .ok := congrArg Except.ok (if_neg fun h => by cases h.1)
      exact Except.ok.inj (hok.symm.trans hresult)
    have hroomLeft : answer.out.length < room := by
      simp only [Compressor.Status.isLast, Bool.and_eq_true, decide_eq_true_eq] at hlast
      exact hlast.1.2
    have htake : answer.out = asked.pending.take room := rfl
    rw [htake, List.length_take] at hroomLeft
    omega
  have hall : answer.out = asked.pending := List.take_of_length_le hfits
  have hinput : (earlier ++ [Deflater.Request.sync]).flatMap Deflater.Request.input
      = earlier.flatMap Deflater.Request.input := by
    simp [Deflater.Request.input]
  rw [hall, hout, hε level earlier, ← htaken, hinput]

end Metered

end HttpPipeline
