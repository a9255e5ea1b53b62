import HttpPipeline.Response.Polled
import HttpPipeline.Proofs.Response.Ledger

/-!
# The ledger of a channel with its client

Bytes written to a channel are pending, then queued, then received. Where the limits between
these parts are is the client's affair, and no law may depend on it: what was received and
what is queued make up one list of chunks (`Polled.chunks`), which a poll does not change.

The ledger of a polled channel (`Polled.Account`) speaks of that list only. It is kept while
the response is written, nothing is refused, and at the end the client receives it all.
-/

namespace HttpPipeline

namespace Channel

/-- A channel but for what is queued. -/
def unqueued (c : Channel) : Channel := { c with queue := [] }

end Channel

namespace Polled

/-- All of the body that was queued so far, received or not. -/
def chunks (p : Polled) : List Chunk := p.received ++ p.channel.queue

/-! ### The client's turn -/

/-- **A poll** moves one chunk at most and changes nothing else. -/
theorem poll_spec (p : Polled) :
    p.poll.chunks = p.chunks ∧ p.poll.channel.unqueued = p.channel.unqueued := by
  cases hqueue : p.channel.queue with
  | nil =>
    -- whether the channel has ended or not, there is nothing to receive
    have hsame : p.poll = p := by
      unfold poll Channel.receive
      simp only [hqueue]
      cases p.channel.ended <;> rfl
    rw [hsame]
    exact ⟨rfl, rfl⟩
  | cons chunk queue =>
    simp only [poll, Channel.receive, hqueue]
    refine ⟨?_, rfl⟩
    simp only [chunks, hqueue, List.append_assoc, List.cons_append, List.nil_append]

/-- So do any number of polls. -/
theorem pollTimes_spec (p : Polled) (times : Nat) :
    (p.pollTimes times).chunks = p.chunks ∧
      (p.pollTimes times).channel.unqueued = p.channel.unqueued := by
  induction times generalizing p with
  | zero => exact ⟨rfl, rfl⟩
  | succ times ih =>
    obtain ⟨hchunks, hrest⟩ := ih p.poll
    exact ⟨hchunks.trans p.poll_spec.1, hrest.trans p.poll_spec.2⟩

theorem turn_spec (p : Polled) :
    p.turn.chunks = p.chunks ∧ p.turn.channel.unqueued = p.channel.unqueued := by
  unfold turn
  split
  · exact ⟨rfl, rfl⟩
  · exact pollTimes_spec _ _

/-- As many polls as there are chunks in the queue empty it. -/
theorem queue_pollTimes (p : Polled) {times : Nat} (h : p.channel.queue.length = times) :
    (p.pollTimes times).channel.queue = [] := by
  induction times generalizing p with
  | zero => exact List.eq_nil_of_length_eq_zero h
  | succ times ih =>
    apply ih
    cases hqueue : p.channel.queue with
    | nil => rw [hqueue] at h; exact absurd h (by simp)
    | cons chunk queue =>
      rw [hqueue] at h
      simp only [poll, Channel.receive, hqueue]
      exact Nat.succ.inj h

/-- **In the end everything is received.** -/
theorem received_toEnd (p : Polled) : p.toEnd.received = p.chunks := by
  have hchunks := (p.pollTimes_spec p.channel.queue.length).1
  rw [chunks, queue_pollTimes p rfl, List.append_nil] at hchunks
  exact hchunks

/-! ### The ledger -/

/-- **The ledger of a channel with its client**, while the client wants the body. -/
structure Account (k : Ledger) (p : Polled) : Prop where
  bodyWanted : p.channel.bodyWanted = true
  isOpen : p.channel.ended = false
  status : p.channel.sent.map Head.status = k.status
  head : ∀ head, k.sent = some head → p.channel.sent = some head
  uncut : .cut ∉ p.chunks
  body : p.chunks.flatMap Chunk.bytes ++ p.channel.pending = k.written
  /-- Nothing is written before the head. -/
  empty : k.status = none → k.written = []

theorem account_start (polls : List Nat) : Account {} { polls } :=
  ⟨rfl, rfl, rfl, by simp, by simp [chunks], rfl, fun _ => rfl⟩

namespace Account

variable {k : Ledger} {p : Polled}

/-- What the ledger says depends on all chunks and the rest of the channel. -/
theorem congr (h : Account k p) {q : Polled} (hchunks : q.chunks = p.chunks)
    (hrest : q.channel.unqueued = p.channel.unqueued) : Account k q := by
  have hsent : q.channel.unqueued.sent = p.channel.unqueued.sent := by rw [hrest]
  have hpending : q.channel.unqueued.pending = p.channel.unqueued.pending := by rw [hrest]
  have hwanted : q.channel.unqueued.bodyWanted = p.channel.unqueued.bodyWanted := by rw [hrest]
  have hended : q.channel.unqueued.ended = p.channel.unqueued.ended := by rw [hrest]
  refine ⟨hwanted.trans h.bodyWanted, hended.trans h.isOpen, ?_, ?_, ?_, ?_, h.empty⟩
  · exact (congrArg _ hsent).trans h.status
  · exact fun head hk => hsent.trans (h.head head hk)
  · rw [hchunks]
    exact h.uncut
  · rw [hchunks, ← h.body]
    exact congrArg _ hpending

theorem turn (h : Account k p) : Account k p.turn := h.congr p.turn_spec.1 p.turn_spec.2

/-- **The head is sent**, unless it was. -/
theorem sendHead (h : Account k p) (code : Status) :
    Account (k.hear code) { p with channel := p.channel.sendHead code } := by
  unfold Channel.sendHead
  cases hsent : p.channel.sent with
  | some head =>
    have hsome : k.status.isSome := by rw [← h.status, hsent]; rfl
    rw [Ledger.hear_of_isSome hsome]
    exact h
  | none =>
    have hnone : k.status = none := by rw [← h.status, hsent]; rfl
    refine ⟨h.bodyWanted, h.isOpen, ?_, ?_, h.uncut, h.body, fun hs => absurd hs (by simp)⟩
    · rw [Ledger.hear_status, hnone]
      rfl
    · intro head hk
      exact absurd (hsent.symm.trans (h.head head hk)) (by simp)

/-- The head that is sent is the one given, if there was none. -/
theorem sent_sendHead (h : Account {} p) (code : Status) :
    (p.channel.sendHead code).sent = some ⟨code, p.channel.headers⟩ := by
  have hnone : p.channel.sent = none := Option.map_eq_none_iff.mp h.status
  rw [Channel.sendHead, hnone]

/-- **The pending bytes are queued.** -/
theorem push (h : Account k p) :
    ∃ c, p.channel.push = (.ok (), c) ∧ c.pending = [] ∧ c.sent = p.channel.sent ∧
      Account k { p with channel := c } := by
  unfold Channel.push
  -- nothing pending, a client that wants the body, and one that does not
  split_ifs with hpending hwanted
  · exact ⟨_, rfl, List.isEmpty_iff.mp hpending, rfl, h⟩
  · refine ⟨_, rfl, rfl, rfl, h.bodyWanted, h.isOpen, h.status, h.head, ?_, ?_, h.empty⟩
    · have huncut := h.uncut
      simp only [chunks] at huncut ⊢
      simpa using huncut
    · rw [← h.body]
      simp [chunks, Chunk.bytes]
  · exact absurd h.bodyWanted hwanted

/-- **Bytes are written**, and taken whole. -/
theorem write (h : Account k p) (data : Bytes) :
    ∃ c, p.channel.write data = (.accepted data.length, c) ∧
      Account (k.add data) { p with channel := c } := by
  -- the head comes first, then the data are pending, and a full frame is queued
  have hhead : Account k.settle { p with channel := p.channel.sendHead 200 } := h.sendHead 200
  have hadded : Account (k.add data) { p with channel := { p.channel.sendHead 200 with
      pending := (p.channel.sendHead 200).pending ++ data } } := by
    refine ⟨hhead.bodyWanted, hhead.isOpen, hhead.status, hhead.head, hhead.uncut, ?_,
      fun hs => absurd hs (by simp)⟩
    rw [Ledger.add_written, ← Ledger.settle_written, ← hhead.body, List.append_assoc]
    rfl
  unfold Channel.write
  simp only
  split_ifs with hshort
  · exact ⟨_, rfl, hadded⟩
  · obtain ⟨c, hpush, -, -, hc⟩ := hadded.push
    rw [hpush]
    exact ⟨c, rfl, hc⟩

/-- **A flush** sends the head and queues what is pending. -/
theorem flush (h : Account k p) :
    ∃ c, p.channel.flush = (.ok (), c) ∧ Account k.settle { p with channel := c } := by
  obtain ⟨c, hpush, -, -, hc⟩ := (h.sendHead 200).push
  refine ⟨c, ?_, hc⟩
  simp only [Channel.flush, hpush]

/-- An interim status is dropped. -/
theorem drops (h : Account k p) {code : Status} (hcode : Status.final code = false) :
    Account k (Sink.sendStatus p code) := by
  show Account k { p.turn with channel := p.turn.channel.sendStatus code }
  rw [Channel.sendStatus, hcode, if_neg Bool.false_ne_true]
  exact h.turn

end Account

/-- **A polled channel keeps its ledger**, whenever the client polls. -/
theorem keeps : Sink.Keeps Account where
  setHeaders := fun h _ =>
    ⟨h.bodyWanted, h.isOpen, h.status, h.head, h.uncut, h.body, h.empty⟩
  sendFinal := by
    intro k p h code hcode
    show Account _ { p.turn with channel := p.turn.channel.sendStatus code }
    rw [Channel.sendStatus, if_pos hcode]
    exact h.turn.sendHead code
  sendInterim := fun h _ hcode => .inl (h.drops hcode)
  write := by
    intro k p h data
    obtain ⟨c, hwrite, hc⟩ := h.turn.write data
    show Sink.Taken Account k data (p.write data)
    rw [Polled.write, hwrite]
    exact Sink.taken_whole hc
  flush := by
    intro k p h
    obtain ⟨c, hflush, hc⟩ := h.turn.flush
    show Sink.Flushed Account k p.flush
    rw [Polled.flush, hflush]
    exact hc

/-- A channel sends the head with the first final status. -/
theorem prompt : Sink.Prompt Account := by
  intro p h code hcode
  have hsent := keeps.sendFinal h hcode
  refine ⟨hsent.bodyWanted, hsent.isOpen, hsent.status, ?_, hsent.uncut, hsent.body, hsent.empty⟩
  intro head hhead
  obtain rfl := Option.some.inj hhead
  show (p.turn.channel.sendStatus code).sent = _
  have hheaders : p.turn.channel.unqueued.headers = p.channel.unqueued.headers := by
    rw [p.turn_spec.2]
  rw [Channel.sendStatus, if_pos hcode, h.turn.sent_sendHead]
  exact congrArg (fun headers => some (Head.mk code headers)) hheaders

/-- A channel refuses nothing but a take-over while the client wants the body. -/
theorem whole : Sink.Whole Account where
  write := by
    intro k p h data
    obtain ⟨c, hwrite, -⟩ := h.turn.write data
    show (p.write data).1 = _
    rw [Polled.write, hwrite]
  flush := by
    intro k p h
    obtain ⟨c, hflush, -⟩ := h.turn.flush
    show p.flush.1 = _
    rw [Polled.flush, hflush]
  hijack := fun h _ => ⟨⟨_, rfl⟩, h.turn⟩

/-! ### The end of a response -/

/-- **The client receives the whole response** once it is finished: the head, at the latest
now, and every byte, up to an end as it should be. -/
theorem Account.finish {k : Ledger} {p : Polled} (h : Account k p) :
    ∃ head, p.finish.channel.sent = some head ∧ head.status = k.status.getD 200 ∧
      (∀ sent, p.channel.sent = some sent → head = sent) ∧
      .cut ∉ p.finish.toEnd.received ∧
      p.finish.toEnd.received.flatMap Chunk.bytes = k.written := by
  -- the end implies a status and leaves nothing pending
  obtain ⟨c, hpush, hempty, hkept, hc⟩ := (h.sendHead 200).push
  have hfinish : p.finish = { p with channel := { c with ended := true } } := by
    rw [Polled.finish, Channel.finish, hpush]
  have hall : p.finish.toEnd.received = chunks { p with channel := c } := by
    rw [received_toEnd, hfinish]
    rfl
  have hstatus := hc.status
  rw [Ledger.hear_status] at hstatus
  obtain ⟨head, hsent, hcode⟩ := Option.map_eq_some_iff.mp hstatus
  refine ⟨head, by rw [hfinish]; exact hsent, hcode, ?_, ?_, ?_⟩
  · intro sent hbefore
    have hsame : c.sent = some sent := by
      rw [hkept]
      simp only [Channel.sendHead, hbefore]
    exact Option.some.inj (hsent.symm.trans hsame)
  · rw [hall]
    exact hc.uncut
  · have hbody := hc.body
    rw [show ({ p with channel := c } : Polled).channel.pending = [] from hempty,
      List.append_nil] at hbody
    rw [hall]
    exact hbody

end Polled

end HttpPipeline
