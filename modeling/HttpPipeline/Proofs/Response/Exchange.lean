import HttpPipeline.Proofs.Response.Batches
import Mathlib.Logic.Relation

/-!
# What a client receives while the response is written

Writer and client share a channel, and either may move while the other has more to do. What the
client takes out of the channel does not change what the writer does: with what was received put
back, the channel is as the acts alone have made it (`Exchange.Along`). So what was received and
what waits are together fixed by the acts done, however the moves of the two are mixed.

Three things follow.

* At any time the client has received at most one head, and every frame is full unless a flush
  or the end has asked for it (`Exchange.Orderly`).
* Nobody waits for ever. The moves come to an end, and they end when the writer has done all
  acts and the client has received everything (`Exchange.exists_over`).
* Then a response that was finished is received whole (`Exchange.Complete`), and one whose
  writer was let go is received up to a cut (`Exchange.CutShort`), or not at all if its head was
  never sent (`Exchange.Refused`).
-/

namespace HttpPipeline

open Channel (Demand Act)

namespace Channel

/-! ### Acts and what was received -/

namespace Demand

variable {demand : Demand} {act : Act}

/-- **The acts of a call.** Headers are edited, a status is given, bytes are gathered and fill
frames, and a flush drains. -/
theorem mem_acts_call {call : Call} (hplain : call.isPlain = true)
    (h : act ∈ (Demand.call call).acts) :
    (∃ asked, act = .edit asked ∧ asked.isHeader = true) ∨ (∃ status, act = .head status) ∨
      (∃ data, act = .gather data) ∨ act = .fill ∨ act = .drain ∧ call = .flush := by
  cases call with
  | status code =>
    rw [acts] at h
    split_ifs at h
    · exact .inr (.inl ⟨code, List.mem_singleton.mp h⟩)
    · exact absurd h List.not_mem_nil
  | write data =>
    simp only [acts, List.mem_cons, List.not_mem_nil, or_false] at h
    rcases h with rfl | rfl | rfl
    · exact .inr (.inl ⟨200, rfl⟩)
    · exact .inr (.inr (.inl ⟨data, rfl⟩))
    · exact .inr (.inr (.inr (.inl rfl)))
  | writeAll data =>
    rw [acts] at h
    split_ifs at h
    · exact absurd h List.not_mem_nil
    · simp only [List.mem_cons, List.not_mem_nil, or_false] at h
      rcases h with rfl | rfl | rfl
      · exact .inr (.inl ⟨200, rfl⟩)
      · exact .inr (.inr (.inl ⟨data, rfl⟩))
      · exact .inr (.inr (.inr (.inl rfl)))
  | flush =>
    simp only [acts, List.mem_cons, List.not_mem_nil, or_false] at h
    rcases h with rfl | rfl
    · exact .inr (.inl ⟨200, rfl⟩)
    · exact .inr (.inr (.inr (.inr ⟨rfl, rfl⟩)))
  | hijack answer => exact absurd hplain Bool.false_ne_true
  | errorReply code message => exact absurd hplain Bool.false_ne_true
  | _ =>
    -- the calls about headers
    exact .inl ⟨_, List.mem_singleton.mp h, rfl⟩

/-- Only calls about headers are carried out as edits. -/
theorem isHeader_of_edit (hplain : demand.isPlain = true) {asked : Call}
    (h : Act.edit asked ∈ demand.acts) : asked.isHeader = true := by
  cases demand with
  | finish => simp [acts] at h
  | letGo => simp [acts] at h
  | call made =>
    rcases mem_acts_call hplain h with ⟨other, heq, hheader⟩ | ⟨_, heq⟩ | ⟨_, heq⟩ | heq | ⟨heq, -⟩
    · rw [Act.edit.inj heq]
      exact hheader
    all_goals exact absurd heq (by simp)

/-- Only a flush and the end ask for what is pending. -/
theorem of_drain (hplain : demand.isPlain = true) (h : Act.drain ∈ demand.acts) :
    demand = .call .flush ∨ demand = .finish := by
  cases demand with
  | finish => exact .inr rfl
  | letGo => simp [acts] at h
  | call made =>
    rcases mem_acts_call hplain h with ⟨_, heq, -⟩ | ⟨_, heq⟩ | ⟨_, heq⟩ | heq | ⟨-, rfl⟩
    · exact absurd heq (by simp)
    · exact absurd heq (by simp)
    · exact absurd heq (by simp)
    · exact absurd heq (by simp)
    · exact .inl rfl

/-- A call does not end the response. -/
theorem close_notMem_acts {call : Call} (hplain : call.isPlain = true) :
    Act.close ∉ (Demand.call call).acts := by
  intro h
  rcases mem_acts_call hplain h with ⟨_, heq, -⟩ | ⟨_, heq⟩ | ⟨_, heq⟩ | heq | ⟨heq, -⟩
  all_goals exact absurd heq (by simp)

end Demand

namespace Act

variable {act : Act} {c : Channel}

/-- An act leaves it to the client what it wants. -/
theorem run_wanted (hact : ∀ asked, act = .edit asked → asked.isHeader = true)
    (hbody : c.bodyWanted = true) (hhead : c.headWanted = true) :
    (act.run c).bodyWanted = true ∧ (act.run c).headWanted = true := by
  obtain ⟨headers, pending, hleft | ⟨-, head, hsent⟩⟩ := run_cases hact hbody hhead
  · rw [hleft]
    exact ⟨hbody, hhead⟩
  · rw [hsent]
    exact ⟨hbody, hhead⟩

/-- An act adds to the end of the queue. -/
theorem queue_run (hact : ∀ asked, act = .edit asked → asked.isHeader = true)
    (hbody : c.bodyWanted = true) (hhead : c.headWanted = true) :
    (act.run c).queue = c.queue ++ act.adds c := by
  obtain ⟨headers, pending, hleft | ⟨-, head, hsent⟩⟩ := run_cases hact hbody hhead
  · rw [hleft, leaves]
  · rw [hsent, leaves]

/-- Only the last act ends the response. -/
theorem ended_run (hact : ∀ asked, act = .edit asked → asked.isHeader = true)
    (hbody : c.bodyWanted = true) (hhead : c.headWanted = true) :
    (act.run c).ended = (c.ended || act = .close) := by
  obtain ⟨headers, pending, hleft | ⟨-, head, hsent⟩⟩ := run_cases hact hbody hhead
  · rw [hleft, leaves]
  · rw [hsent, leaves]

/-- The head waits from when it is sent. -/
theorem waiting_run (hact : ∀ asked, act = .edit asked → asked.isHeader = true)
    (hbody : c.bodyWanted = true) (hhead : c.headWanted = true) {heads : List Head}
    (h : heads ++ c.waiting.toList = c.sent.toList) :
    heads ++ (act.run c).waiting.toList = (act.run c).sent.toList := by
  obtain ⟨headers, pending, hleft | ⟨hnone, head, hsent⟩⟩ := run_cases hact hbody hhead
  · rw [hleft]
    exact h
  · -- no head was there to be received
    rw [hnone] at h
    have hheads : heads = [] := (List.append_eq_nil_iff.mp h).1
    rw [hsent, hheads]
    rfl

end Act

/-- A channel with another queue, of which nobody has received the head. -/
def refilled (c : Channel) (queue : List Chunk) : Channel := { c with queue, waiting := c.sent }

/-- **An act does not look at what was received.** -/
theorem Act.run_refilled {act : Act} (hact : ∀ asked, act = .edit asked → asked.isHeader = true)
    {c : Channel} (hbody : c.bodyWanted = true) (hhead : c.headWanted = true)
    (queue : List Chunk) :
    act.adds (c.refilled queue) = act.adds c ∧
      act.run (c.refilled queue) = (act.run c).refilled (queue ++ act.adds c) := by
  have hrefilled : (c.refilled queue).bodyWanted = true := hbody
  -- each act looks at the pending bytes and at the head that was sent, and at nothing else
  cases act with
  | edit asked =>
    simp only [run, adds, List.append_nil, true_and]
    rcases Call.perform_edits (hact asked rfl) with hsame | ⟨edit, hedit⟩
    · rw [hsame, hsame]
    · rw [hedit, hedit]
      rfl
  | head status =>
    simp only [run, adds, List.append_nil, true_and, sendStatus]
    split_ifs
    · unfold sendHead refilled
      cases hsent : c.sent with
      | some head => simp only [hsent]
      | none => simp only [hhead, if_true]
    · rfl
  | gather data => simp [run, adds, refilled]
  | fill =>
    simp only [run, adds]
    rw [push_eq hbody, push_eq hrefilled]
    -- a frame is queued behind the others, or none is full yet
    show (if c.pending.length < frameSize then [] else c.frame) = _ ∧
      (if c.pending.length < frameSize then c.refilled queue else _) = _
    split_ifs
    · exact ⟨rfl, by rw [List.append_nil]⟩
    · exact ⟨rfl, rfl⟩
  | drain =>
    simp only [run, adds]
    rw [push_eq hbody, push_eq hrefilled]
    exact ⟨rfl, rfl⟩
  | cut =>
    simp only [run, adds]
    show (if c.sent.isSome && c.bodyWanted then _ else _) = _ ∧
      (if c.sent.isSome && c.bodyWanted then _ else _) = _
    split_ifs
    · exact ⟨rfl, rfl⟩
    · exact ⟨rfl, by rw [List.append_nil]⟩
  | close => simp [run, adds, refilled]

/-! ### The client's side -/

theorem receive_chunk {c d : Channel} {chunk : Chunk} (h : c.receive = (.chunk chunk, d)) :
    ∃ queue, c.queue = chunk :: queue ∧ d = { c with queue } := by
  unfold receive at h
  split at h
  · rename_i first queue hqueue
    obtain ⟨hchunk, rfl⟩ := Prod.mk.inj h
    rw [← Received.chunk.inj hchunk]
    exact ⟨queue, hqueue, rfl⟩
  · have hnone := congrArg Prod.fst h
    simp only at hnone
    split_ifs at hnone

theorem receiveHead_head {c d : Channel} {head : Head} (h : c.receiveHead = (.head head, d)) :
    c.waiting = some head ∧ d = { c with waiting := none } := by
  unfold receiveHead at h
  split at h
  · rename_i first hwaiting
    obtain ⟨hhead, rfl⟩ := Prod.mk.inj h
    rw [← HeadReceived.head.inj hhead]
    exact ⟨hwaiting, rfl⟩
  · have hnone := congrArg Prod.fst h
    simp only at hnone
    split_ifs at hnone

end Channel

namespace Exchange

/-! ### What the writer has done -/

/-- Acts that belong to a demand that edits headers only by calls about headers. -/
def Plain (acts : List (Demand × Act)) : Prop :=
  ∀ entry ∈ acts, entry.1.isPlain = true ∧ entry.2 ∈ entry.1.acts

namespace Plain

variable {acts : List (Demand × Act)}

theorem isHeader (h : Plain acts) {demand : Demand} {act : Act} (hmem : (demand, act) ∈ acts) :
    ∀ asked, act = .edit asked → asked.isHeader = true := by
  obtain ⟨hplain, hact⟩ := h _ hmem
  intro asked heq
  rw [heq] at hact
  exact Demand.isHeader_of_edit hplain hact

theorem of_subset {others : List (Demand × Act)} (h : Plain acts) (hsub : others ⊆ acts) :
    Plain others :=
  fun entry hentry => h entry (hsub hentry)

end Plain

/-- The channel after some acts, if nobody receives anything. -/
def written (acts : List (Demand × Act)) : Channel := Channel.runAll (acts.map Prod.snd) {}

/-- What some acts queue, each chunk with the demand that has queued it. -/
def queued : List (Demand × Act) → Channel → List (Demand × Chunk)
  | [], _ => []
  | (demand, act) :: acts, c => (act.adds c).map (demand, ·) ++ queued acts (act.run c)

theorem written_concat (acts : List (Demand × Act)) (demand : Demand) (act : Act) :
    written (acts ++ [(demand, act)]) = act.run (written acts) := by
  simp [written, Channel.runAll]

theorem queued_concat (acts : List (Demand × Act)) (demand : Demand) (act : Act) (c : Channel) :
    queued (acts ++ [(demand, act)]) c
      = queued acts c ++ (act.adds (Channel.runAll (acts.map Prod.snd) c)).map (demand, ·) := by
  induction acts generalizing c with
  | nil => simp [queued, Channel.runAll]
  | cons entry acts ih =>
    obtain ⟨first, act'⟩ := entry
    rw [List.cons_append, queued, ih, queued, List.append_assoc]
    rfl

/-- **What the client has received was written.** Some of the acts are done. They alone have made
the channel what it is, but for what was received of it. -/
structure Along (acts : List (Demand × Act)) (x : Exchange) (done : List (Demand × Act)) :
    Prop where
  acts : acts = done ++ x.todo
  channel : x.channel.refilled (x.received ++ x.channel.queue) = written done
  log : x.log = queued done {}
  heads : x.heads ++ x.channel.waiting.toList = x.channel.sent.toList
  bodyWanted : x.channel.bodyWanted = true
  headWanted : x.channel.headWanted = true

theorem along_start (demands : List Demand) : Along (start demands).todo (start demands) [] :=
  ⟨rfl, rfl, rfl, rfl, rfl, rfl⟩

/-- **One move.** -/
theorem Along.step {acts done : List (Demand × Act)} (hacts : Plain acts) {x y : Exchange}
    (h : Along acts x done) (hstep : Step x y) : ∃ done, Along acts y done := by
  cases hstep with
  | write next room =>
    rename_i demand act todo
    have hmem : (demand, act) ∈ acts := by
      rw [h.acts, next]
      exact List.mem_append_right _ List.mem_cons_self
    have hedit := hacts.isHeader hmem
    have hqueue := Act.queue_run hedit h.bodyWanted h.headWanted
    obtain ⟨hadds, hrun⟩ := Act.run_refilled hedit h.bodyWanted h.headWanted
      (x.received ++ x.channel.queue)
    obtain ⟨hbody, hhead⟩ := Act.run_wanted hedit h.bodyWanted h.headWanted
    refine ⟨done ++ [(demand, act)], ?_, ?_, ?_, ?_, hbody, hhead⟩
    · rw [h.acts, next, List.append_assoc]
      rfl
    · -- the same act on the channel with what was received put back
      rw [written_concat, ← h.channel, hrun, hqueue, List.append_assoc]
    · rw [queued_concat, h.log]
      show _ = _ ++ (act.adds (written done)).map (demand, ·)
      rw [← h.channel, hadds]
    · exact Act.waiting_run hedit h.bodyWanted h.headWanted h.heads
  | receive there =>
    rename_i chunk channel
    obtain ⟨queue, hqueue, rfl⟩ := Channel.receive_chunk there
    refine ⟨done, h.acts, ?_, h.log, h.heads, h.bodyWanted, h.headWanted⟩
    -- the first of the queue becomes the last of what was received
    have hmoved : x.received ++ [chunk] ++ queue = x.received ++ x.channel.queue := by
      rw [hqueue, List.append_assoc]
      rfl
    rw [← h.channel, ← hmoved]
    rfl
  | receiveHead there =>
    rename_i head channel
    obtain ⟨hwaiting, rfl⟩ := Channel.receiveHead_head there
    refine ⟨done, h.acts, h.channel, h.log, ?_, h.bodyWanted, h.headWanted⟩
    have hheads := h.heads
    rw [hwaiting] at hheads
    rw [← hheads]
    exact List.append_nil _

/-- **A course** of an exchange: any number of moves, of the writer and the client in any order. -/
abbrev Leads : Exchange → Exchange → Prop := Relation.ReflTransGen Step

variable {demands : List Demand}

theorem plain_start (hplain : ∀ demand ∈ demands, demand.isPlain = true) :
    Plain (start demands).todo := by
  intro entry hentry
  obtain ⟨demand, hdemand, hact⟩ := List.mem_flatMap.mp hentry
  obtain ⟨act, hmem, rfl⟩ := List.mem_map.mp hact
  exact ⟨hplain demand hdemand, hmem⟩

theorem along_leads (hplain : ∀ demand ∈ demands, demand.isPlain = true) {x : Exchange}
    (hsteps : Leads (start demands) x) : ∃ done, Along (start demands).todo x done := by
  have hacts := plain_start hplain
  -- on the moves; each of them does one more act, or none
  induction hsteps with
  | refl => exact ⟨[], along_start demands⟩
  | tail _ hstep ih =>
    obtain ⟨done, hdone⟩ := ih
    exact hdone.step hacts hstep

/-- Nothing that was received is taken back. -/
theorem received_prefix {x y : Exchange} (hsteps : Leads x y) :
    x.heads <+: y.heads ∧ x.received <+: y.received := by
  induction hsteps with
  | refl => exact ⟨List.prefix_rfl, List.prefix_rfl⟩
  | tail _ hstep ih =>
    obtain ⟨hheads, hreceived⟩ := ih
    cases hstep with
    | write next room => exact ⟨hheads, hreceived⟩
    | receive there => exact ⟨hheads, hreceived.trans (List.prefix_append _ _)⟩
    | receiveHead there => exact ⟨hheads.trans (List.prefix_append _ _), hreceived⟩

/-! ### Every exchange comes to an end -/

/-- As long as it is not over, someone can move: a full queue is never what everybody waits
for. -/
theorem step_of_not_over {x : Exchange} (h : ¬x.Over) : ∃ y, Step x y := by
  -- the client takes what is there before the handler goes on, so there is always room for a frame
  cases hqueue : x.channel.queue with
  | cons chunk queue =>
    have there : x.channel.receive = (.chunk chunk, { x.channel with queue }) := by
      rw [Channel.receive, hqueue]
    exact ⟨_, .receive there⟩
  | nil =>
    cases hwaiting : x.channel.waiting with
    | some head =>
      have there : x.channel.receiveHead = (.head head, { x.channel with waiting := none }) := by
        rw [Channel.receiveHead, hwaiting]
      exact ⟨_, .receiveHead there⟩
    | none =>
      cases htodo : x.todo with
      | nil => exact absurd ⟨htodo, hqueue, hwaiting⟩ h
      | cons entry todo =>
        have hroom : x.channel.queue.length < Channel.queueLimit := by
          rw [hqueue]
          decide
        exact ⟨_, .write htodo (.inr hroom)⟩

/-- How many moves are left at most: each act, the chunk and the head that it may send. -/
def left (x : Exchange) : Nat :=
  3 * x.todo.length + x.channel.queue.length + x.channel.waiting.toList.length

/-- **A move leaves fewer.** -/
theorem left_lt {x y : Exchange} (hplain : Plain x.todo) (hbody : x.channel.bodyWanted = true)
    (hhead : x.channel.headWanted = true) (h : Step x y) : y.left < x.left := by
  cases h with
  | write next room =>
    rename_i demand act todo
    have hmem : (demand, act) ∈ x.todo := by
      rw [next]
      exact List.mem_cons_self
    have hqueue := Act.queue_run (hplain.isHeader hmem) hbody hhead
    -- the act is gone, and it has left one chunk and one head at most
    have hadds := act.length_adds_le x.channel
    have hwaiting := Option.length_toList_le (o := (act.run x.channel).waiting)
    simp only [left, next, hqueue, List.length_append, List.length_cons]
    omega
  | receive there =>
    obtain ⟨queue, hqueue, rfl⟩ := Channel.receive_chunk there
    simp only [left, hqueue, List.length_cons]
    omega
  | receiveHead there =>
    obtain ⟨hwaiting, rfl⟩ := Channel.receiveHead_head there
    simp [left, hwaiting]

/-- **Every course can be carried to an end**, and there is no other way to go on for ever: each
move leaves fewer to be made. -/
theorem exists_over (hplain : ∀ demand ∈ demands, demand.isPlain = true) {x : Exchange}
    (hsteps : Leads (start demands) x) : ∃ y, Leads x y ∧ y.Over := by
  -- on how many moves are left
  induction hleft : x.left using Nat.strongRecOn generalizing x with
  | ind n ih =>
    by_cases hover : x.Over
    · exact ⟨x, .refl, hover⟩
    · obtain ⟨done, hdone⟩ := along_leads hplain hsteps
      have htodo : Plain x.todo :=
        (plain_start hplain).of_subset (hdone.acts ▸ List.subset_append_right done x.todo)
      obtain ⟨y, hstep⟩ := step_of_not_over hover
      have hlt := left_lt htodo hdone.bodyWanted hdone.headWanted hstep
      obtain ⟨z, hz, hzover⟩ := ih y.left (hleft ▸ hlt) (hsteps.tail hstep) rfl
      exact ⟨z, .head hstep hz, hzover⟩

/-! ### At any time -/

/-- **An exchange in good order.** -/
structure Orderly (x : Exchange) : Prop where
  /-- One head is sent at most, whether it was received or waits. -/
  heads : (x.heads ++ x.channel.waiting.toList).length ≤ 1
  /-- The log lists what was received and what waits, in this order. -/
  chunks : x.log.map Prod.snd = x.received ++ x.channel.queue
  /-- No frame is empty, and a frame that neither a flush nor the end has asked for is full. -/
  frames : ∀ demand data, (demand, Chunk.frame data) ∈ x.log →
    data ≠ [] ∧ (demand ≠ .call .flush → demand ≠ .finish → Channel.frameSize ≤ data.length)

theorem queue_runAll {acts : List (Demand × Act)} (hacts : Plain acts) {c : Channel}
    (hbody : c.bodyWanted = true) (hhead : c.headWanted = true) :
    (Channel.runAll (acts.map Prod.snd) c).queue
      = c.queue ++ (queued acts c).map Prod.snd := by
  induction acts generalizing c with
  | nil => exact (List.append_nil _).symm
  | cons entry acts ih =>
    obtain ⟨demand, act⟩ := entry
    have hedit := hacts.isHeader List.mem_cons_self
    obtain ⟨hbody', hhead'⟩ := Act.run_wanted hedit hbody hhead
    have hrest := ih (hacts.of_subset (List.subset_cons_self _ acts)) hbody' hhead'
    rw [Act.queue_run hedit hbody hhead, List.append_assoc] at hrest
    have hadds : (queued ((demand, act) :: acts) c).map Prod.snd
        = act.adds c ++ (queued acts (act.run c)).map Prod.snd := by
      simp [queued, Function.comp_def]
    rw [hadds]
    exact hrest

theorem frames_queued {acts : List (Demand × Act)} (hacts : Plain acts) (c : Channel)
    {demand : Demand} {data : Bytes} (h : (demand, Chunk.frame data) ∈ queued acts c) :
    data ≠ [] ∧ (demand ≠ .call .flush → demand ≠ .finish → Channel.frameSize ≤ data.length) := by
  induction acts generalizing c with
  | nil => exact absurd h List.not_mem_nil
  | cons entry acts ih =>
    obtain ⟨first, act⟩ := entry
    rcases List.mem_append.mp h with hnow | hlater
    · -- the frame is of this act, and only a drain has asked for one that is not full
      obtain ⟨chunk, hchunk, heq⟩ := List.mem_map.mp hnow
      obtain ⟨rfl, rfl⟩ := Prod.mk.inj heq
      obtain ⟨hplain, hact⟩ := hacts _ List.mem_cons_self
      obtain ⟨hne, hfull⟩ := Act.frame_adds hchunk
      refine ⟨hne, fun hflush hfinish => hfull fun hdrain => ?_⟩
      rcases Demand.of_drain hplain (hdrain ▸ hact) with hcall | hend
      · exact hflush hcall
      · exact hfinish hend
    · exact ih (hacts.of_subset (List.subset_cons_self _ acts)) _ hlater

/-- **Every course keeps an exchange in good order.** -/
theorem orderly (hplain : ∀ demand ∈ demands, demand.isPlain = true) {x : Exchange}
    (hsteps : Leads (start demands) x) : x.Orderly := by
  obtain ⟨done, h⟩ := along_leads hplain hsteps
  have hdone : Plain done :=
    (plain_start hplain).of_subset (h.acts ▸ List.subset_append_left done x.todo)
  refine ⟨?_, ?_, fun demand data hmem => ?_⟩
  · rw [h.heads]
    exact Option.length_toList_le
  · have hqueue : (written done).queue = x.received ++ x.channel.queue := by
      rw [← h.channel]
      rfl
    rw [h.log, ← hqueue, written, queue_runAll hdone rfl rfl]
    rfl
  · rw [h.log] at hmem
    exact frames_queued hdone _ hmem

/-! ### When it is over -/

theorem plain_ofCalls {calls : List Call} (hcalls : ∀ call ∈ calls, call.isPlain = true)
    {last : Demand} (hlast : last = .finish ∨ last = .letGo) :
    ∀ demand ∈ calls.map Demand.call ++ [last], demand.isPlain = true := by
  intro demand hdemand
  rcases List.mem_append.mp hdemand with hcall | hend
  · obtain ⟨call, hmem, rfl⟩ := List.mem_map.mp hcall
    exact hcalls call hmem
  · rw [List.mem_singleton.mp hend]
    rcases hlast with rfl | rfl <;> rfl

theorem runAll_calls {calls : List Call} (hcalls : ∀ call ∈ calls, call.isPlain = true)
    {body : Bytes} {c : Channel} (h : Channel.Batched body c) :
    Channel.runAll ((calls.map Demand.call).flatMap Demand.acts) c
      = (Call.performAll calls c).2 := by
  induction calls generalizing body c with
  | nil => rfl
  | cons call calls ih =>
    have hplain := hcalls call List.mem_cons_self
    have hfirst := Demand.runAll_acts h.bodyWanted (.call call) hplain
    have hrest := ih (fun d hd => hcalls d (List.mem_cons_of_mem _ hd)) (h.perform call hplain)
    -- the acts of the first call, and then those of the others
    rw [List.map_cons, List.flatMap_cons, Channel.runAll, List.foldl_append]
    show Channel.runAll _ (Channel.runAll (Demand.call call).acts c) = _
    rw [hfirst]
    exact hrest

/-- All acts together amount to the calls and the end. -/
theorem written_ofCalls {calls : List Call} (hcalls : ∀ call ∈ calls, call.isPlain = true)
    {last : Demand} (hlast : last.isPlain = true) :
    written (ofCalls calls last).todo
      = last.perform (Call.performAll calls ({} : Channel)).2 := by
  have hB := Channel.Batched.start.performAll calls hcalls
  have hacts : (ofCalls calls last).todo.map Prod.snd
      = (calls.map Demand.call).flatMap Demand.acts ++ last.acts := by
    simp [ofCalls, start, List.map_flatMap, Function.comp_def]
  rw [written, hacts, Channel.runAll, List.foldl_append]
  show Channel.runAll last.acts (Channel.runAll _ {}) = _
  rw [runAll_calls hcalls Channel.Batched.start]
  exact Demand.runAll_acts hB.bodyWanted last hlast

/-- **Once all acts are done**, what was received and what waits are what the calls and the end
have written. -/
theorem spec_of_done {calls : List Call} (hcalls : ∀ call ∈ calls, call.isPlain = true)
    {last : Demand} (hlast : last = .finish ∨ last = .letGo) {x : Exchange}
    (hsteps : Leads (ofCalls calls last) x) (htodo : x.todo = []) :
    let c := last.perform (Call.performAll calls ({} : Channel)).2
    x.received ++ x.channel.queue = c.queue ∧
      x.heads ++ x.channel.waiting.toList = c.sent.toList ∧ x.channel.ended = c.ended := by
  intro c
  obtain ⟨done, h⟩ := along_leads (plain_ofCalls hcalls hlast) hsteps
  -- nothing is left to do, so what was done is all there is
  have hdone : done = (ofCalls calls last).todo := by
    rw [ofCalls, h.acts, htodo, List.append_nil]
  have hc : x.channel.refilled (x.received ++ x.channel.queue) = c := by
    rw [h.channel, hdone]
    exact written_ofCalls hcalls (plain_ofCalls hcalls hlast last (by simp))
  refine ⟨?_, ?_, ?_⟩
  · rw [← hc]
    rfl
  · rw [h.heads, ← hc]
    rfl
  · rw [← hc]
    rfl

/-- At the end nothing waits. -/
theorem Over.spec {calls : List Call} (hcalls : ∀ call ∈ calls, call.isPlain = true)
    {last : Demand} (hlast : last = .finish ∨ last = .letGo) {x : Exchange}
    (hsteps : Leads (ofCalls calls last) x) (hover : x.Over) :
    let c := last.perform (Call.performAll calls ({} : Channel)).2
    x.received = c.queue ∧ x.heads = c.sent.toList ∧ x.channel.ended = c.ended := by
  intro c
  obtain ⟨htodo, hqueue, hwaiting⟩ := hover
  have hspec := spec_of_done hcalls hlast hsteps htodo
  rw [hqueue, hwaiting, Option.toList_none, List.append_nil, List.append_nil] at hspec
  exact hspec

/-- Acts before the last one do not end the response. -/
theorem ended_runAll {acts : List (Demand × Act)} (hacts : Plain acts)
    (hclose : ∀ entry ∈ acts, entry.2 ≠ .close) {c : Channel} (hbody : c.bodyWanted = true)
    (hhead : c.headWanted = true) :
    (Channel.runAll (acts.map Prod.snd) c).ended = c.ended := by
  induction acts generalizing c with
  | nil => rfl
  | cons entry acts ih =>
    obtain ⟨demand, act⟩ := entry
    have hedit := hacts.isHeader List.mem_cons_self
    obtain ⟨hbody', hhead'⟩ := Act.run_wanted hedit hbody hhead
    have hrest := ih (hacts.of_subset (List.subset_cons_self _ acts))
      (fun e he => hclose e (List.mem_cons_of_mem _ he)) hbody' hhead'
    -- the first act is not the last one
    have hfirst := Act.ended_run hedit hbody hhead
    rw [decide_eq_false (hclose _ List.mem_cons_self), Bool.or_false] at hfirst
    exact hrest.trans hfirst

/-- **A response that was finished**, received whole. -/
structure Complete (calls : List Call) (x : Exchange) : Prop where
  /-- The head is that of the first call that sends one, and else that of the end. -/
  head : x.heads = [(Channel.announced calls {}).getD
    ⟨200, (Call.performAll calls ({} : Channel)).2.headers⟩]
  /-- The frames are all that was written. -/
  body : ∃ frames : List Bytes,
    x.received = frames.map .frame ∧ frames.flatten = calls.flatMap Call.data
  ended : x.channel.receive.1 = .ended

/-- **A response whose writer was let go** after the head was sent, received up to a cut. -/
structure CutShort (calls : List Call) (head : Head) (x : Exchange) : Prop where
  head : x.heads = [head]
  /-- The frames are a beginning of what was written. What is missing is less than a frame and
  was not flushed, and one cut ends the whole. -/
  body : ∃ frames : List Bytes,
    x.received = frames.map .frame ++ [.cut] ∧
    frames.flatten <+: calls.flatMap Call.data ∧
    (calls.flatMap Call.data).length < frames.flatten.length + Channel.frameSize ∧
    ∀ earlier later, calls = earlier ++ .flush :: later →
      earlier.flatMap Call.data <+: frames.flatten

/-- **A response whose writer was let go** before the head was sent. -/
structure Refused (x : Exchange) : Prop where
  heads : x.heads = []
  received : x.received = []
  /-- Whoever waits for the head learns that none will come. -/
  closed : x.channel.receiveHead.1 = .closed

section Ends

variable {calls : List Call} {x : Exchange}

theorem performAll_batched (hcalls : ∀ call ∈ calls, call.isPlain = true) :
    Channel.Batched (calls.flatMap Call.data) (Call.performAll calls ({} : Channel)).2 :=
  Channel.Batched.start.performAll calls hcalls

theorem performAll_sent (hcalls : ∀ call ∈ calls, call.isPlain = true) :
    (Call.performAll calls ({} : Channel)).2.sent = Channel.announced calls {} :=
  (Channel.sent_performAll calls hcalls .start).trans Option.none_or

/-- **After a finish.** -/
theorem Over.complete (hcalls : ∀ call ∈ calls, call.isPlain = true)
    (hsteps : Leads (ofCalls calls .finish) x) (hover : x.Over) : x.Complete calls := by
  obtain ⟨hreceived, hheads, hended⟩ := hover.spec hcalls (.inl rfl) hsteps
  have hB := performAll_batched hcalls
  have hsent := performAll_sent hcalls
  generalize hc : (Call.performAll calls ({} : Channel)).2 = c at hreceived hheads hended hB hsent
  have hfinish : Demand.finish.perform c = { (c.sendHead 200).drained with ended := true } := by
    show c.finish = _
    rw [Channel.finish, Channel.push_eq (hB.sendHead 200).bodyWanted]
  rw [hfinish] at hreceived hheads hended
  obtain ⟨frames, hqueue, hbody⟩ := (hB.sendHead 200).drained.frames
  refine ⟨?_, ⟨frames, hreceived.trans hqueue, ?_⟩, ?_⟩
  · have hsame : ({ (c.sendHead 200).drained with ended := true } : Channel).sent
        = (Channel.announced calls {}).or (some ⟨200, c.headers⟩) := by
      rw [← hsent]
      exact Channel.sendHead_sent c 200
    rw [hheads, hsame, Option.or_some, hc]
    rfl
  · -- nothing is pending after the end
    rw [← hbody]
    exact (List.append_nil _).symm
  · rw [Channel.receive, hover.2.1, hended]
    rfl

/-- What is pushed by a flush is in the frames of every later state. -/
theorem flushed_prefix {earlier later : List Call}
    (hcalls : ∀ call ∈ earlier ++ .flush :: later, call.isPlain = true) {frames : List Bytes}
    (hqueue : (Call.performAll (earlier ++ .flush :: later) ({} : Channel)).2.queue
      = frames.map .frame) :
    earlier.flatMap Call.data <+: frames.flatten := by
  have hbytes (frames : List Bytes) :
      (frames.map Chunk.frame).flatMap Chunk.bytes = frames.flatten := by
    rw [List.flatMap_map]
    exact List.flatMap_id
  have hearlier := performAll_batched fun call hcall => hcalls call (List.mem_append_left _ hcall)
  -- the flush leaves nothing pending
  have hB := (hearlier.sendHead 200).drained
  have hflush : (Call.performAll (earlier ++ .flush :: later) ({} : Channel)).2
      = (Call.performAll later
          ((Call.performAll earlier ({} : Channel)).2.sendHead 200).drained).2 := by
    rw [Call.performAll_append]
    show (Call.performAll later (Call.performAll earlier ({} : Channel)).2.flush.2).2 = _
    rw [Channel.flush_eq hearlier.bodyWanted]
  have hlater := hB.queue_performAll later fun call hcall =>
    hcalls call (List.mem_append_right _ (List.mem_cons_of_mem _ hcall))
  rw [← hflush, hqueue] at hlater
  obtain ⟨flushed, hflushed, hbody⟩ := hB.frames
  rw [hflushed] at hlater
  obtain ⟨rest, hrest⟩ := hlater
  refine ⟨rest.flatMap Chunk.bytes, ?_⟩
  rw [← hbytes frames, ← hrest, List.flatMap_append, hbytes, ← hbody]
  exact congrArg (· ++ _) (List.append_nil _)

/-- What a writer leaves that is let go. -/
theorem letGo_queue {c : Channel} (hbody : c.bodyWanted = true) :
    c.letGo.queue = if c.sent.isSome then c.queue ++ [.cut] else c.queue := by
  simp only [Channel.letGo, hbody, Bool.and_true]

/-- **After a writer was let go**, its head being sent. -/
theorem Over.cutShort (hcalls : ∀ call ∈ calls, call.isPlain = true)
    (hsteps : Leads (ofCalls calls .letGo) x) (hover : x.Over) {head : Head}
    (hhead : Channel.announced calls {} = some head) : x.CutShort calls head := by
  obtain ⟨hreceived, hheads, hended⟩ := hover.spec hcalls (.inr rfl) hsteps
  have hB := performAll_batched hcalls
  have hsent := (performAll_sent hcalls).trans hhead
  obtain ⟨frames, hqueue, hbody⟩ := hB.frames
  refine ⟨?_, frames, ?_, ⟨_, hbody⟩, ?_, fun earlier later heq => ?_⟩
  · rw [hheads]
    show (Call.performAll calls ({} : Channel)).2.sent.toList = _
    rw [hsent, Option.toList_some]
  · rw [hreceived]
    show (Call.performAll calls ({} : Channel)).2.letGo.queue = _
    rw [letGo_queue hB.bodyWanted, hsent, hqueue]
    rfl
  · -- what is missing is what was pending
    rw [← hbody, List.length_append]
    exact Nat.add_lt_add_left hB.short _
  · subst heq
    exact flushed_prefix hcalls hqueue

/-- **After a writer was let go**, no head being sent. -/
theorem Over.refused (hcalls : ∀ call ∈ calls, call.isPlain = true)
    (hsteps : Leads (ofCalls calls .letGo) x) (hover : x.Over)
    (hhead : Channel.announced calls {} = none) : x.Refused := by
  obtain ⟨hreceived, hheads, hended⟩ := hover.spec hcalls (.inr rfl) hsteps
  have hB := performAll_batched hcalls
  have hsent := (performAll_sent hcalls).trans hhead
  have hqueue := (hB.untold hsent).1
  refine ⟨?_, ?_, ?_⟩
  · rw [hheads]
    show (Call.performAll calls ({} : Channel)).2.sent.toList = _
    rw [hsent, Option.toList_none]
  · rw [hreceived]
    show (Call.performAll calls ({} : Channel)).2.letGo.queue = _
    rw [letGo_queue hB.bodyWanted, hsent, hqueue]
    rfl
  · rw [Channel.receiveHead, hover.2.2, hended]
    show (if _ || true || _ then _ else _) = _
    rw [Bool.or_true, Bool.true_or, if_pos rfl]

/-- Only the last act ends the response, so one that has ended is all written. -/
theorem todo_of_ended (hcalls : ∀ call ∈ calls, call.isPlain = true)
    (hsteps : Leads (ofCalls calls .letGo) x) (hended : x.channel.ended = true) :
    x.todo = [] := by
  have hplain := plain_ofCalls hcalls (.inr rfl)
  obtain ⟨done, h⟩ := along_leads hplain hsteps
  rcases List.eq_nil_or_concat x.todo with hnil | ⟨todo, next, htodo⟩
  · exact hnil
  · -- something is still to be done, so what was done does not go up to the last act
    have hacts : (ofCalls calls .letGo).todo
        = ((calls.map Demand.call).flatMap fun demand => demand.acts.map (demand, ·))
          ++ [(.letGo, .cut)] ++ [(.letGo, .close)] := by
      simp [ofCalls, start, Demand.acts]
    have hdone : done ++ todo
        = ((calls.map Demand.call).flatMap fun demand => demand.acts.map (demand, ·))
          ++ [(.letGo, .cut)] := by
      have hall := h.acts
      rw [← ofCalls, hacts, htodo, List.concat_eq_append, ← List.append_assoc] at hall
      exact (List.append_inj' hall rfl).1.symm
    -- the last act is the only one that ends the channel
    have hclose : ∀ entry ∈ done, entry.2 ≠ .close := by
      intro entry hentry
      have hmem := List.mem_append_left todo hentry
      rw [hdone] at hmem
      rcases List.mem_append.mp hmem with hasked | hcut
      · obtain ⟨demand, hdemand, hmade⟩ := List.mem_flatMap.mp hasked
        obtain ⟨call, hcall, rfl⟩ := List.mem_map.mp hdemand
        obtain ⟨act, hact, rfl⟩ := List.mem_map.mp hmade
        intro heq
        obtain rfl : act = .close := heq
        exact Demand.close_notMem_acts (hcalls call hcall) hact
      · rw [List.mem_singleton.mp hcut]
        exact fun heq => absurd heq (by simp)
    have hopen : x.channel.ended = false := by
      have hends : x.channel.ended = (written done).ended := by
        rw [← h.channel]
        rfl
      have hdoneplain : Plain done :=
        (plain_start hplain).of_subset (h.acts ▸ List.subset_append_left done x.todo)
      rw [hends, written, ended_runAll hdoneplain hclose rfl rfl]
    exact absurd (hended.symm.trans hopen) (by simp)

/-- **No clean end** of a response that is cut short: whoever sees its end has seen the cut. -/
theorem cut_of_ended (hcalls : ∀ call ∈ calls, call.isPlain = true)
    (hsteps : Leads (ofCalls calls .letGo) x) {head : Head}
    (hhead : Channel.announced calls {} = some head) (hended : x.channel.receive.1 = .ended) :
    .cut ∈ x.received := by
  have hempty : x.channel.queue = [] ∧ x.channel.ended = true := by
    cases hqueue : x.channel.queue with
    | cons chunk queue =>
      rw [Channel.receive, hqueue] at hended
      exact absurd hended (by simp)
    | nil =>
      rw [Channel.receive, hqueue] at hended
      refine ⟨rfl, ?_⟩
      by_contra hopen
      rw [if_neg hopen] at hended
      exact absurd hended (by simp)
  -- all was written and all was received, the cut at the end of the queue with it
  have htodo := todo_of_ended hcalls hsteps hempty.2
  have hqueue := (spec_of_done hcalls (.inr rfl) hsteps htodo).1
  have hB := performAll_batched hcalls
  have hsent := (performAll_sent hcalls).trans hhead
  rw [hempty.1, List.append_nil] at hqueue
  rw [hqueue]
  show .cut ∈ (Call.performAll calls ({} : Channel)).2.letGo.queue
  rw [letGo_queue hB.bodyWanted, hsent, Option.isSome_some, if_pos rfl]
  exact List.mem_append_right _ (List.mem_singleton_self _)

end Ends

end Exchange

end HttpPipeline
