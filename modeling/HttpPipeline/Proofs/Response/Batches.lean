import HttpPipeline.Response.Exchange
import HttpPipeline.Proofs.Response.Calls
import Mathlib.Data.List.Infix

/-!
# How a channel puts a body into frames

What a writer asks of a channel whose client wants the body is carried out as it is here: no
write is cut short and no flush fails. What was written is then in two places. Most of it is
queued, in frames, and the rest is pending, less than a frame (`Channel.Batched`). A flush leaves
nothing pending, and nothing leaves the queue on this side, so what was flushed is in the frames
of every later state.

The head is sent with the first call that gives or implies a final status, with the headers of
that moment (`Channel.announced`).
-/

namespace HttpPipeline

namespace Channel

/-! ### Requests, while the client wants the body -/

variable {c : Channel}

@[simp] theorem sendHead_queue (c : Channel) (status : Status) :
    (c.sendHead status).queue = c.queue := by
  unfold sendHead
  split <;> rfl

@[simp] theorem sendHead_pending (c : Channel) (status : Status) :
    (c.sendHead status).pending = c.pending := by
  unfold sendHead
  split <;> rfl

@[simp] theorem sendHead_bodyWanted (c : Channel) (status : Status) :
    (c.sendHead status).bodyWanted = c.bodyWanted := by
  unfold sendHead
  split <;> rfl

@[simp] theorem sendHead_headWanted (c : Channel) (status : Status) :
    (c.sendHead status).headWanted = c.headWanted := by
  unfold sendHead
  split <;> rfl

@[simp] theorem sendHead_ended (c : Channel) (status : Status) :
    (c.sendHead status).ended = c.ended := by
  unfold sendHead
  split <;> rfl

@[simp] theorem sendHead_sent (c : Channel) (status : Status) :
    (c.sendHead status).sent = c.sent.or (some ⟨status, c.headers⟩) := by
  unfold sendHead
  split
  · -- a head that was sent stays
    rename_i head hsent
    rw [hsent, Option.some_or]
  · rename_i hnone
    rw [hnone, Option.none_or]

/-- The pending bytes, in the queue. -/
def drained (c : Channel) : Channel := { c with pending := [], queue := c.queue ++ c.frame }

/-- Bytes written, in the queue if they make a frame and else pending. -/
def filled (c : Channel) (data : Bytes) : Channel :=
  let c := { c with pending := c.pending ++ data }
  if c.pending.length < frameSize then c else c.drained

theorem push_eq (hwanted : c.bodyWanted = true) : c.push = (.ok (), c.drained) := by
  cases hpending : c.pending with
  | nil =>
    -- there is nothing to push, and draining nothing changes nothing
    have hframe : c.frame = [] := by rw [frame, hpending]; rfl
    have hsame : c.drained = c := by rw [drained, hframe, List.append_nil, ← hpending]
    rw [hsame, push, hpending]
    rfl
  | cons b rest =>
    have hframe : c.frame = [.frame c.pending] := by rw [frame, hwanted, hpending]; rfl
    rw [drained, hframe, push, hpending, hwanted]
    rfl

theorem write_eq (hwanted : c.bodyWanted = true) (data : Bytes) :
    c.write data = (.accepted data.length, (c.sendHead 200).filled data) := by
  unfold write filled
  simp only
  split_ifs
  · rfl
  · rw [push_eq (by simpa using hwanted)]

theorem flush_eq (hwanted : c.bodyWanted = true) :
    c.flush = (.ok (), (c.sendHead 200).drained) := by
  unfold flush
  rw [push_eq (by simpa using hwanted)]

theorem writeAll_eq (hwanted : c.bodyWanted = true) (data : Bytes) :
    Sink.writeAll c data
      = (.ok (), if data.isEmpty then c else (c.sendHead 200).filled data) := by
  cases data with
  | nil => exact Sink.writeAll_nil c
  | cons b rest => exact Sink.writeAll_of_write (by simp) (write_eq hwanted _)

/-! ### Acts -/

/-- What an act leaves, but for the head: it adds to the end of the queue, and only the last one
ends the response. -/
def Act.leaves (act : Act) (c : Channel) (headers : Headers) (pending : Bytes) : Channel :=
  { c with headers, pending, queue := c.queue ++ act.adds c, ended := c.ended || act = .close }

/-- **What an act does** while the client wants head and body. If it sends the head, the head was
not sent before, and now it waits. -/
theorem Act.run_cases {act : Act} (hact : ∀ asked, act = .edit asked → asked.isHeader = true)
    (hbody : c.bodyWanted = true) (hhead : c.headWanted = true) :
    ∃ headers pending, act.run c = act.leaves c headers pending ∨
      c.sent = none ∧ ∃ head, act.run c =
        { act.leaves c headers pending with sent := some head, waiting := some head } := by
  cases act with
  | edit asked =>
    rcases Call.perform_isHeader (hact asked rfl) c with hsame | ⟨headers, hset⟩
    · exact ⟨c.headers, c.pending, .inl (by simp [run, leaves, adds, hsame])⟩
    · refine ⟨headers, c.pending, .inl ?_⟩
      rw [run, hset]
      simp [Sink.setHeaders, leaves, adds]
  | head status =>
    -- a head is sent once and never for an interim status
    refine ⟨c.headers, c.pending, ?_⟩
    rw [run, sendStatus]
    split_ifs
    · unfold sendHead
      cases hsent : c.sent with
      | some head => exact .inl (by simp [leaves, adds])
      | none => exact .inr ⟨rfl, ⟨status, c.headers⟩, by simp [leaves, adds, hhead]⟩
    · exact .inl (by simp [leaves, adds])
  | gather data => exact ⟨c.headers, c.pending ++ data, .inl (by simp [run, leaves, adds])⟩
  | fill =>
    simp only [run]
    rw [push_eq hbody]
    split_ifs with hshort
    · exact ⟨c.headers, c.pending, .inl (by simp [leaves, adds, hshort])⟩
    · exact ⟨c.headers, [], .inl (by simp [leaves, adds, hshort, drained])⟩
  | drain =>
    simp only [run]
    rw [push_eq hbody]
    exact ⟨c.headers, [], .inl (by simp [leaves, adds, drained])⟩
  | cut =>
    refine ⟨c.headers, c.pending, .inl ?_⟩
    simp only [run, leaves, adds]
    split_ifs <;> simp
  | close => exact ⟨c.headers, c.pending, .inl (by simp [run, leaves, adds])⟩

/-- **A frame** is never empty, and it is full unless it was asked for. -/
theorem Act.frame_adds {act : Act} {data : Bytes} (h : Chunk.frame data ∈ act.adds c) :
    data ≠ [] ∧ (act ≠ .drain → frameSize ≤ data.length) := by
  have hframe (hmem : Chunk.frame data ∈ c.frame) : data = c.pending ∧ data ≠ [] := by
    unfold frame at hmem
    split_ifs at hmem with hnone
    · exact absurd hmem List.not_mem_nil
    · obtain rfl := Chunk.frame.inj (List.mem_singleton.mp hmem)
      exact ⟨rfl, fun hempty => hnone (by rw [hempty]; rfl)⟩
  cases act with
  | fill =>
    rw [adds] at h
    split_ifs at h with hshort
    · exact absurd h List.not_mem_nil
    · obtain ⟨rfl, hne⟩ := hframe h
      exact ⟨hne, fun _ => Nat.not_lt.mp hshort⟩
  | drain => exact ⟨(hframe h).2, fun hne => absurd rfl hne⟩
  | cut =>
    rw [adds] at h
    split_ifs at h
    · exact absurd (List.mem_singleton.mp h) (by simp)
    · exact absurd h List.not_mem_nil
  | _ => exact absurd h List.not_mem_nil

/-- An act adds one chunk at most. -/
theorem Act.length_adds_le (act : Act) (c : Channel) : (act.adds c).length ≤ 1 := by
  cases act with
  | fill =>
    simp only [adds, frame]
    split_ifs <;> simp
  | drain =>
    simp only [adds, frame]
    split_ifs <;> simp
  | cut =>
    simp only [adds]
    split_ifs <;> simp
  | _ => exact Nat.zero_le 1

/-- Some acts one after the other. -/
def runAll (acts : List Act) (c : Channel) : Channel := acts.foldl (fun c act => act.run c) c

namespace Demand

/-- Whether a demand is an end, or edits or reads headers, gives a status, writes or flushes. -/
def isPlain : Demand → Bool
  | .call asked => asked.isPlain
  | _ => true

/-- **The acts of a demand** amount to the demand, while the client wants the body. -/
theorem runAll_acts (hwanted : c.bodyWanted = true) (demand : Demand)
    (hplain : demand.isPlain = true) : runAll demand.acts c = demand.perform c := by
  -- both kinds of writes, if there is something to write
  have hwrite (data : Bytes) :
      runAll [.head 200, .gather data, .fill] c = (c.sendHead 200).filled data := by
    show Act.run .fill { c.sendHead 200 with pending := (c.sendHead 200).pending ++ data } = _
    rw [Act.run, filled, push_eq (by simpa using hwanted)]
  cases demand with
  | finish => rfl
  | letGo =>
    show { Act.run .cut c with ended := true } = c.letGo
    unfold Act.run Channel.letGo
    split_ifs <;> rfl
  | call asked =>
    cases asked with
    -- an invalid status makes no acts and leaves the channel alone
    | status code =>
      rw [acts, perform, Call.perform]
      split_ifs <;> rfl
    | write data =>
      have hperform : (Call.perform (.write data) c).2 = (c.write data).2 := rfl
      rw [acts, perform, hperform, write_eq hwanted]
      exact hwrite data
    | writeAll data =>
      have hperform : (Call.perform (.writeAll data) c).2 = (Sink.writeAll c data).2 := rfl
      rw [acts, perform, hperform, writeAll_eq hwanted]
      split_ifs
      · rfl
      · exact hwrite data
    | flush =>
      have hperform : (Call.perform .flush c).2 = c.flush.2 := rfl
      rw [acts, perform, hperform, flush_eq hwanted]
      show (c.sendHead 200).push.2 = _
      rw [push_eq (by simpa using hwanted)]
    | hijack answer => exact absurd hplain Bool.false_ne_true
    | errorReply code message => exact absurd hplain Bool.false_ne_true
    | _ => rfl

end Demand

/-! ### Calls -/

/-- **What a call does to a channel**: it edits headers or does nothing, gives a status, writes or
flushes. -/
theorem perform_cases (hwanted : c.bodyWanted = true) (call : Call)
    (hplain : call.isPlain = true) :
    (call.status? = none ∧ call.data = [] ∧
      ∃ headers, (call.perform c).2 = { c with headers }) ∨
    (∃ code, call.status? = some code ∧ call.data = [] ∧
      (call.perform c).2 = c.sendStatus code) ∨
    (call.status? = some 200 ∧ (call.perform c).2 = (c.sendHead 200).filled call.data) ∨
    (call = .flush ∧ (call.perform c).2 = (c.sendHead 200).drained) := by
  -- by what a call does to the channel: headers, a head, data behind a head, or a flush
  have hheader (hcall : call.isHeader = true) :
      ∃ headers, (call.perform c).2 = { c with headers } := by
    rcases Call.perform_isHeader hcall c with hsame | ⟨headers, hset⟩
    · exact ⟨c.headers, hsame⟩
    · exact ⟨headers, hset⟩
  cases call with
  | set name value => exact .inl ⟨rfl, rfl, hheader rfl⟩
  | append name value => exact .inl ⟨rfl, rfl, hheader rfl⟩
  | remove name => exact .inl ⟨rfl, rfl, hheader rfl⟩
  | get name => exact .inl ⟨rfl, rfl, hheader rfl⟩
  | status code =>
    rw [Call.perform, Call.status?]
    split_ifs
    · exact .inr (.inl ⟨code, rfl, rfl, rfl⟩)
    · exact .inl ⟨rfl, rfl, c.headers, rfl⟩
  | write data =>
    have hperform : (Call.perform (.write data) c).2 = (c.write data).2 := rfl
    rw [hperform, write_eq hwanted]
    exact .inr (.inr (.inl ⟨rfl, rfl⟩))
  | writeAll data =>
    have hperform : (Call.perform (.writeAll data) c).2 = (Sink.writeAll c data).2 := rfl
    rw [hperform, writeAll_eq hwanted, Call.status?]
    split_ifs with hempty
    · exact .inl ⟨rfl, List.isEmpty_iff.mp hempty, c.headers, rfl⟩
    · exact .inr (.inr (.inl ⟨rfl, rfl⟩))
  | flush =>
    have hperform : (Call.perform .flush c).2 = c.flush.2 := rfl
    rw [hperform, flush_eq hwanted]
    exact .inr (.inr (.inr ⟨rfl, rfl⟩))
  | hijack answer => exact absurd hplain Bool.false_ne_true
  | errorReply code message => exact absurd hplain Bool.false_ne_true

theorem frame_eq (hwanted : c.bodyWanted = true) :
    ∃ frames : List Bytes, c.frame = frames.map .frame ∧ frames.flatten = c.pending := by
  cases hpending : c.pending with
  | nil => exact ⟨[], by rw [frame, hpending]; rfl, rfl⟩
  | cons b rest =>
    refine ⟨[b :: rest], ?_, by simp⟩
    rw [frame, hwanted, hpending]
    rfl

/-- **A body in frames**: what was written is queued but for less than a frame. -/
structure Batched (written : Bytes) (c : Channel) : Prop where
  bodyWanted : c.bodyWanted = true
  headWanted : c.headWanted = true
  isOpen : c.ended = false
  /-- Nobody receives the head on this side. -/
  waiting : c.waiting = c.sent
  frames : ∃ frames : List Bytes,
    c.queue = frames.map .frame ∧ frames.flatten ++ c.pending = written
  short : c.pending.length < frameSize
  /-- Nothing is written before the head. -/
  untold : c.sent = none → c.queue = [] ∧ c.pending = []

namespace Batched

variable {written : Bytes}

theorem start : Batched [] {} :=
  ⟨rfl, rfl, rfl, rfl, ⟨[], rfl, rfl⟩, by decide, fun _ => ⟨rfl, rfl⟩⟩

theorem setHeaders (h : Batched written c) (headers : Headers) :
    Batched written { c with headers } :=
  ⟨h.bodyWanted, h.headWanted, h.isOpen, h.waiting, h.frames, h.short, h.untold⟩

theorem sendHead (h : Batched written c) (status : Status) :
    Batched written (c.sendHead status) := by
  refine ⟨?_, ?_, ?_, ?_, ?_, ?_, fun hnone => ?_⟩
  · rw [sendHead_bodyWanted, h.bodyWanted]
  · rw [sendHead_headWanted, h.headWanted]
  · rw [sendHead_ended, h.isOpen]
  · unfold Channel.sendHead
    split
    · exact h.waiting
    · simp only [h.headWanted, if_true]
  · rw [sendHead_queue, sendHead_pending]
    exact h.frames
  · rw [sendHead_pending]
    exact h.short
  · -- once the head is sent there is nothing left to show
    rw [sendHead_sent, Option.or_eq_none_iff] at hnone
    exact absurd hnone.2 (by simp)

/-- What is pending is queued. -/
theorem drained (h : Batched written c) : Batched written c.drained := by
  obtain ⟨frames, hqueue, hflatten⟩ := h.frames
  -- the pending bytes become the last frame, unless there are none
  obtain ⟨last, hframe, hlast⟩ := frame_eq h.bodyWanted
  refine ⟨h.bodyWanted, h.headWanted, h.isOpen, h.waiting, ⟨frames ++ last, ?_, ?_⟩, ?_,
    fun hnone => ?_⟩
  · rw [Channel.drained, hqueue, hframe, List.map_append]
  · rw [List.flatten_append, hlast, Channel.drained, List.append_nil, hflatten]
  · exact (by decide : 0 < frameSize)
  · obtain ⟨hempty, hpending⟩ := h.untold hnone
    simp [Channel.drained, frame, hempty, hpending]

/-- **Bytes are written** after the head. -/
theorem filled (h : Batched written c) (hsent : c.sent.isSome) (data : Bytes) :
    Batched (written ++ data) (c.filled data) := by
  obtain ⟨frames, hqueue, hflatten⟩ := h.frames
  have hbody : frames.flatten ++ (c.pending ++ data) = written ++ data := by
    rw [← List.append_assoc, hflatten]
  have huntold {P : Prop} (hnone : c.sent = none) : P := by
    rw [hnone] at hsent
    exact absurd hsent Bool.false_ne_true
  unfold Channel.filled
  simp only
  split_ifs with hshort
  · exact ⟨h.bodyWanted, h.headWanted, h.isOpen, h.waiting, ⟨frames, hqueue, hbody⟩, hshort,
      huntold⟩
  · -- a full frame is queued, and nothing is pending
    obtain ⟨last, hframe, hlast⟩ :=
      frame_eq (c := { c with pending := c.pending ++ data }) h.bodyWanted
    refine ⟨h.bodyWanted, h.headWanted, h.isOpen, h.waiting, ⟨frames ++ last, ?_, ?_⟩, ?_, huntold⟩
    · rw [Channel.drained, hframe, List.map_append, ← hqueue]
    · rw [List.flatten_append, hlast, Channel.drained, List.append_nil]
      exact hbody
    · exact (by decide : 0 < frameSize)

/-- **One call.** -/
theorem perform (h : Batched written c) (call : Call) (hplain : call.isPlain = true) :
    Batched (written ++ call.data) (call.perform c).2 := by
  -- a write and a flush send the head before anything else
  have hhead : (c.sendHead 200).sent.isSome := by simp
  rcases perform_cases h.bodyWanted call hplain with
    ⟨-, hdata, headers, hedit⟩ | ⟨code, -, hdata, hstatus⟩ | ⟨-, hwrite⟩ | ⟨rfl, hflush⟩
  · rw [hedit, hdata, List.append_nil]
    exact h.setHeaders headers
  · rw [hstatus, hdata, List.append_nil, sendStatus]
    split_ifs
    · exact h.sendHead code
    · exact h
  · rw [hwrite]
    exact (h.sendHead 200).filled hhead call.data
  · rw [hflush]
    show Batched (written ++ []) _
    rw [List.append_nil]
    exact (h.sendHead 200).drained

/-- **Any number of calls.** -/
theorem performAll (calls : List Call) (hcalls : ∀ call ∈ calls, call.isPlain = true)
    (h : Batched written c) :
    Batched (written ++ calls.flatMap Call.data) (Call.performAll calls c).2 := by
  induction calls generalizing written c with
  | nil => rwa [List.flatMap_nil, List.append_nil]
  | cons call calls ih =>
    have hfirst := h.perform call (hcalls call List.mem_cons_self)
    have hrest := ih (fun d hd => hcalls d (List.mem_cons_of_mem _ hd)) hfirst
    rwa [List.append_assoc] at hrest

/-- What is queued stays queued. -/
theorem queue_perform (h : Batched written c) (call : Call) (hplain : call.isPlain = true) :
    c.queue <+: (call.perform c).2.queue := by
  rcases perform_cases h.bodyWanted call hplain with
    ⟨-, -, headers, hedit⟩ | ⟨code, -, -, hstatus⟩ | ⟨-, hwrite⟩ | ⟨-, hflush⟩
  · rw [hedit]
  · rw [hstatus, sendStatus]
    split_ifs
    · rw [sendHead_queue]
    · exact List.prefix_rfl
  · rw [hwrite, Channel.filled]
    split_ifs
    · rw [sendHead_queue]
    · rw [Channel.drained]
      exact (sendHead_queue c 200).symm ▸ List.prefix_append _ _
  · rw [hflush, Channel.drained, sendHead_queue]
    exact List.prefix_append _ _

theorem queue_performAll (calls : List Call) (hcalls : ∀ call ∈ calls, call.isPlain = true)
    (h : Batched written c) : c.queue <+: (Call.performAll calls c).2.queue := by
  induction calls generalizing written c with
  | nil => exact List.prefix_rfl
  | cons call calls ih =>
    have hplain := hcalls call List.mem_cons_self
    have hrest := ih (fun d hd => hcalls d (List.mem_cons_of_mem _ hd)) (h.perform call hplain)
    exact (h.queue_perform call hplain).trans hrest

end Batched

/-! ### The head -/

/-- The status with which a call sends the head, if it is the first to do so. -/
def headStatus? (call : Call) : Option Status := call.status?.filter Status.final

/-- **The head of a response**: that of the first call that gives or implies a final status, with
the headers as they stand then. -/
def announced : List Call → Channel → Option Head
  | [], _ => none
  | call :: calls, c =>
    ((headStatus? call).map fun code => ⟨code, c.headers⟩).or (announced calls (call.perform c).2)

theorem sent_perform (hwanted : c.bodyWanted = true) (call : Call)
    (hplain : call.isPlain = true) :
    (call.perform c).2.sent = c.sent.or ((headStatus? call).map fun code => ⟨code, c.headers⟩) := by
  rcases perform_cases hwanted call hplain with
    ⟨hnone, -, headers, hedit⟩ | ⟨code, hsome, -, hstatus⟩ | ⟨hsome, hwrite⟩ | ⟨rfl, hflush⟩
  · rw [hedit, headStatus?, hnone, Option.filter_none, Option.map_none, Option.or_none]
  · rw [hstatus, headStatus?, hsome, Option.filter_some, sendStatus]
    split_ifs
    · exact sendHead_sent c code
    · exact (Option.or_none).symm
  · rw [hwrite, headStatus?, hsome, Channel.filled]
    split_ifs
    · exact sendHead_sent c 200
    · exact sendHead_sent c 200
  · rw [hflush]
    exact sendHead_sent c 200

/-- The head that calls send, unless it was sent before them. -/
theorem sent_performAll {written : Bytes} (calls : List Call)
    (hcalls : ∀ call ∈ calls, call.isPlain = true) (h : Batched written c) :
    (Call.performAll calls c).2.sent = c.sent.or (announced calls c) := by
  induction calls generalizing written c with
  | nil => exact (Option.or_none).symm
  | cons call calls ih =>
    have hplain := hcalls call List.mem_cons_self
    have hrest := ih (fun d hd => hcalls d (List.mem_cons_of_mem _ hd)) (h.perform call hplain)
    -- the head of the first call that has one, with the headers that it finds
    rw [sent_perform h.bodyWanted call hplain, Option.or_assoc] at hrest
    exact hrest

end Channel

end HttpPipeline
