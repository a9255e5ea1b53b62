import HttpPipeline.Proofs.Response.Exchange
import HttpPipeline.Proofs.Serving.Delivery

/-!
# What a service delivers is what was exchanged

A service runs its handler against a channel whose client polls between the requests
(`Polled`), while an exchange mixes the moves of writer and client act by act. The two agree:
with what the client has received put back, a polled channel is the channel that nobody has
received from (`Polled.refilled_performAll`). So what the service delivers at the end is what the
client has received when any exchange of the same calls is over.

`Service.call_exchanges` puts this together with what is known of exchanges.
-/

namespace HttpPipeline

open Channel (Demand Act)

namespace Channel

/-- Acts do not look at what was received. -/
theorem runAll_refilled {acts : List Act}
    (hacts : ∀ asked, Act.edit asked ∈ acts → asked.isHeader = true) {c : Channel}
    (hbody : c.bodyWanted = true) (hhead : c.headWanted = true) (queue : List Chunk) :
    ∃ added, (runAll acts c).queue = c.queue ++ added ∧
      runAll acts (c.refilled queue) = (runAll acts c).refilled (queue ++ added) := by
  induction acts generalizing c queue with
  | nil => exact ⟨[], (List.append_nil _).symm, by rw [List.append_nil]; rfl⟩
  | cons act acts ih =>
    have hedit : ∀ asked, act = .edit asked → asked.isHeader = true :=
      fun asked heq => hacts asked (heq ▸ List.mem_cons_self)
    obtain ⟨hbody', hhead'⟩ := Act.run_wanted hedit hbody hhead
    have hqueue := Act.queue_run hedit hbody hhead
    obtain ⟨-, hrun⟩ := Act.run_refilled hedit hbody hhead queue
    obtain ⟨added, hadded, hrest⟩ := ih
      (fun asked hmem => hacts asked (List.mem_cons_of_mem _ hmem)) hbody' hhead'
      (queue ++ act.adds c)
    refine ⟨act.adds c ++ added, ?_, ?_⟩
    · rw [hqueue, List.append_assoc] at hadded
      exact hadded
    · show runAll acts (act.run (c.refilled queue)) = _
      rw [hrun, hrest, List.append_assoc]
      rfl

end Channel

namespace Polled

/-- **A demand** to a polled channel, with what the client has received put back. -/
theorem refilled_demand {p : Polled} (hbody : p.channel.bodyWanted = true)
    (hhead : p.channel.headWanted = true) (demand : Demand) (hplain : demand.isPlain = true) :
    (demand.perform p.channel).refilled (chunks { p with channel := demand.perform p.channel })
      = demand.perform (p.channel.refilled p.chunks) := by
  have hacts (asked : Call) (hasked : Act.edit asked ∈ demand.acts) : asked.isHeader = true :=
    Demand.isHeader_of_edit hplain hasked
  obtain ⟨added, hadded, hrun⟩ := Channel.runAll_refilled hacts hbody hhead p.chunks
  have hrefilled : (p.channel.refilled p.chunks).bodyWanted = true := hbody
  rw [Demand.runAll_acts hbody demand hplain] at hadded hrun
  rw [Demand.runAll_acts hrefilled demand hplain] at hrun
  rw [hrun, chunks, chunks, List.append_assoc, ← hadded]

/-- The client's turn moves chunks only. -/
theorem refilled_turn (p : Polled) :
    p.turn.channel.refilled p.turn.chunks = p.channel.refilled p.chunks := by
  show p.turn.channel.unqueued.refilled _ = p.channel.unqueued.refilled _
  rw [p.turn_spec.1, p.turn_spec.2]

/-- **A call** is made after the client's turn, if it is passed on at all. -/
theorem perform_eq {p : Polled} (hbody : p.channel.bodyWanted = true) {call : Call}
    (hplain : call.isPlain = true) :
    ∃ q : Polled, q.channel.unqueued = p.channel.unqueued ∧
      q.channel.refilled q.chunks = p.channel.refilled p.chunks ∧
      (call.perform p).2 = { q with channel := (call.perform q.channel).2 } := by
  have hturned : p.turn.channel.bodyWanted = true := by
    have hrest : p.turn.channel.unqueued.bodyWanted = p.channel.unqueued.bodyWanted := by
      rw [p.turn_spec.2]
    exact hrest.trans hbody
  -- a call that the client does not notice, and one that it does
  have hat (h : (call.perform p).2 = { p with channel := (call.perform p.channel).2 }) :
      ∃ q : Polled, q.channel.unqueued = p.channel.unqueued ∧
        q.channel.refilled q.chunks = p.channel.refilled p.chunks ∧
        (call.perform p).2 = { q with channel := (call.perform q.channel).2 } :=
    ⟨p, rfl, rfl, h⟩
  have hafter
      (h : (call.perform p).2 = { p.turn with channel := (call.perform p.turn.channel).2 }) :
      ∃ q : Polled, q.channel.unqueued = p.channel.unqueued ∧
        q.channel.refilled q.chunks = p.channel.refilled p.chunks ∧
        (call.perform p).2 = { q with channel := (call.perform q.channel).2 } :=
    ⟨p.turn, p.turn_spec.2, p.refilled_turn, h⟩
  -- an edit of the headers gives the client no turn
  have hheader (hcall : call.isHeader = true) :
      (call.perform p).2 = { p with channel := (call.perform p.channel).2 } := by
    rcases Call.perform_edits hcall with hsame | ⟨edit, hedit⟩
    · rw [hsame, hsame]
    · rw [hedit, hedit]
      rfl
  cases call with
  | set name value => exact hat (hheader rfl)
  | append name value => exact hat (hheader rfl)
  | remove name => exact hat (hheader rfl)
  | get name => exact hat (hheader rfl)
  | status code =>
    by_cases hvalid : Status.valid code = true
    · refine hafter ?_
      simp only [Call.perform, if_pos hvalid]
      rfl
    · refine hat ?_
      simp only [Call.perform, if_neg hvalid]
  | write data => exact hafter rfl
  | writeAll data =>
    -- no bytes, no write: the client gets no turn here either
    by_cases hd : data = []
    · refine hat ?_
      subst hd
      simp only [Call.perform, Sink.writeAll_nil]
    · refine hafter ?_
      have hwrite : Sink.write p data = (.accepted data.length,
          { p.turn with channel := (p.turn.channel.sendHead 200).filled data }) := by
        show p.write data = _
        rw [Polled.write, Channel.write_eq hturned]
      have hchannel : Sink.write p.turn.channel data = (.accepted data.length,
          (p.turn.channel.sendHead 200).filled data) := Channel.write_eq hturned data
      simp only [Call.perform, Sink.writeAll_of_write hd hwrite, Sink.writeAll_of_write hd hchannel]
  | flush => exact hafter rfl
  | hijack answer => exact absurd hplain Bool.false_ne_true
  | errorReply code message => exact absurd hplain Bool.false_ne_true

/-- **Any number of calls.** -/
theorem refilled_performAll {calls : List Call} (hcalls : ∀ call ∈ calls, call.isPlain = true)
    {body : Bytes} {c : Channel} (hB : Channel.Batched body c) {p : Polled}
    (hp : p.channel.refilled p.chunks = c) :
    (Call.performAll calls p).2.channel.refilled (Call.performAll calls p).2.chunks
      = (Call.performAll calls c).2 := by
  induction calls generalizing body c p with
  | nil => exact hp
  | cons call calls ih =>
    have hplain := hcalls call List.mem_cons_self
    have hbody : p.channel.bodyWanted = true := by
      rw [← hB.bodyWanted, ← hp]
      rfl
    obtain ⟨q, hrest, hq, hperform⟩ := perform_eq hbody hplain
    -- what the client wants is the same after its turn
    have hqc : q.channel.refilled q.chunks = c := hq.trans hp
    have hqbody : q.channel.bodyWanted = true := by
      rw [← hB.bodyWanted, ← hqc]
      rfl
    have hqhead : q.channel.headWanted = true := by
      rw [← hB.headWanted, ← hqc]
      rfl
    have hone : (call.perform p).2.channel.refilled (call.perform p).2.chunks
        = (call.perform c).2 := by
      rw [hperform, ← hqc]
      exact refilled_demand hqbody hqhead (.call call) hplain
    exact ih (fun d hd => hcalls d (List.mem_cons_of_mem _ hd)) (hB.perform call hplain) hone

end Polled

namespace Service

variable {τ : Type} [MemberStream τ]

/-- How the writer of a channel ends when a handler has come to its end. -/
def closing : Ending → Demand
  | .returned => .finish
  | .panicked _ => .letGo

/-- **What is delivered** after some calls: what they and the end have written. -/
theorem delivery_eq (stages : List (Stage τ)) (handler : Handler τ Polled) (request : Request)
    {frames : List (Except String Bytes)} {body : Bytes} (hbody : collect frames = .ok body)
    (world : World) (polls : List Nat) {run : Run Polled}
    (hrun : (Chain.serve stages handler { request with body } .bottom
      ({ polls } : Polled) world).1 = run)
    {calls : List Call} (hcalls : ∀ call ∈ calls, call.isPlain = true)
    (hwriter : run.writer = (Call.performAll calls ({ polls } : Polled)).2) :
    let c := (closing run.ending).perform (Call.performAll calls ({} : Channel)).2
    (call stages handler request frames world polls).delivery =
      match c.sent with
      | some head => .ok ⟨head, c.queue⟩
      | none => .error .aborted := by
  intro c
  have hp : run.writer.channel.refilled run.writer.chunks
      = (Call.performAll calls ({} : Channel)).2 := by
    rw [hwriter]
    exact Polled.refilled_performAll hcalls .start rfl
  have hB := Exchange.performAll_batched hcalls
  rw [← hp] at hB
  -- the end is one more demand to the channel
  have hclosing : (closing run.ending).isPlain = true := by
    cases run.ending <;> rfl
  have hconclude : (conclude run).1
      = { run.writer with channel := (closing run.ending).perform run.writer.channel } := by
    unfold conclude
    cases run.ending <;> rfl
  have hend : c = ((closing run.ending).perform run.writer.channel).refilled
      (conclude run).1.chunks := by
    rw [hconclude, Polled.refilled_demand hB.bodyWanted hB.headWanted _ hclosing, hp]
  have hsent : c.sent = (conclude run).1.channel.sent := by
    rw [hend, hconclude]
    rfl
  have hqueue : c.queue = (conclude run).1.toEnd.received := by
    rw [hend, Polled.received_toEnd]
    rfl
  rw [hsent, hqueue]
  exact (call_of_collect stages handler request hbody world polls hrun).1

/-- **What a client receives of any calls.** Take headers edited, statuses given, bytes written
and flushes, in any number and order, and after them the end of the response or of its writer.
However writer and client take turns, the exchange is in good order at any time and comes to an
end, and what was received before is a beginning of what is received then.

* If the response was finished, it is received whole.
* If its writer was let go after the head was sent, the body ends in a cut and never without
  one.
* If its writer was let go before, nothing is received.

A service whose handler comes down to these calls delivers what any such exchange has brought to
the client at its end, and it answers with a failure where no head was received. -/
theorem call_exchanges (calls : List Call) (hcalls : ∀ call ∈ calls, call.isPlain = true) :
    (∀ last, last = Demand.finish ∨ last = .letGo →
      ∀ x, Exchange.Leads (.ofCalls calls last) x → x.Orderly ∧
        ∃ y, Exchange.Leads x y ∧ y.Over ∧ x.heads <+: y.heads ∧ x.received <+: y.received) ∧
    (∀ x, Exchange.Leads (.ofCalls calls .finish) x → x.Over → x.Complete calls) ∧
    (∀ head, Channel.announced calls {} = some head →
      ∀ x, Exchange.Leads (.ofCalls calls .letGo) x →
        (x.Over → x.CutShort calls head) ∧
        (x.channel.receive.1 = .ended → .cut ∈ x.received)) ∧
    (Channel.announced calls {} = none →
      ∀ x, Exchange.Leads (.ofCalls calls .letGo) x → x.Over → x.Refused) ∧
    ∀ (stages : List (Stage τ)) (handler : Handler τ Polled) (request : Request)
      (frames : List (Except String Bytes)) (body : Bytes) (world : World) (polls : List Nat)
      (run : Run Polled),
      collect frames = .ok body →
      (Chain.serve stages handler { request with body } .bottom
        ({ polls } : Polled) world).1 = run →
      run.writer = (Call.performAll calls ({ polls } : Polled)).2 →
      ∀ x, Exchange.Leads (.ofCalls calls (closing run.ending)) x → x.Over →
        (call stages handler request frames world polls).delivery =
          match x.heads.head? with
          | some head => .ok ⟨head, x.received⟩
          | none => .error .aborted := by
  refine ⟨fun last hlast x hx => ?_, fun x hx hover => hover.complete hcalls hx,
    fun head hhead x hx => ⟨fun hover => hover.cutShort hcalls hx hhead,
      Exchange.cut_of_ended hcalls hx hhead⟩,
    fun hhead x hx hover => hover.refused hcalls hx hhead, ?_⟩
  · have hplain := Exchange.plain_ofCalls hcalls hlast
    obtain ⟨y, hy, hover⟩ := Exchange.exists_over hplain hx
    obtain ⟨hheads, hreceived⟩ := Exchange.received_prefix hy
    exact ⟨Exchange.orderly hplain hx, y, hy, hover, hheads, hreceived⟩
  · intro stages handler request frames body world polls run hbody hrun hwriter x hx hover
    have hlast : closing run.ending = .finish ∨ closing run.ending = .letGo := by
      cases run.ending with
      | returned => exact .inl rfl
      | panicked payload => exact .inr rfl
    obtain ⟨hreceived, hheads, -⟩ := hover.spec hcalls hlast hx
    rw [delivery_eq stages handler request hbody world polls hrun hcalls hwriter, hreceived, hheads]
    cases ((closing run.ending).perform (Call.performAll calls ({} : Channel)).2).sent <;> rfl

/-- A handler that gives an interim status and a final one, flushes the first of what it writes
and fails. The same calls, finished and broken off. -/
theorem call_exchanges_broken_off :
    let calls : List Call :=
      [.status 103, .status 201, .write [1, 2, 3], .flush, .status 404, .write [4]]
    let script : Script := calls.map .call ++ [.panic (.fixed "lost") false]
    (∃ x, Exchange.Leads (.ofCalls calls .finish) x ∧ x.Over ∧ x.Complete calls) ∧
    ∃ x, Exchange.Leads (.ofCalls calls .letGo) x ∧ x.Over ∧ x.CutShort calls ⟨201, {}⟩ ∧
      (call ([] : List (Stage Stored)) script.handler {} [] {} [2, 0, 1]).delivery
        = .ok ⟨⟨201, {}⟩, x.received⟩ := by
  intro calls script
  obtain ⟨hcourse, hfinish, hletGo, -, hservice⟩ := call_exchanges (τ := Stored) calls (by decide)
  obtain ⟨-, y, hy, hyover, -⟩ := hcourse .finish (.inl rfl) _ .refl
  obtain ⟨-, x, hx, hxover, -⟩ := hcourse .letGo (.inr rfl) _ .refl
  have hcut := (hletGo ⟨201, {}⟩ rfl x hx).1 hxover
  have hdelivery := hservice [] script.handler {} [] [] {} [2, 0, 1] _ rfl rfl rfl x hx hxover
  rw [hcut.head] at hdelivery
  exact ⟨⟨y, hy, hyover, hfinish y hy hyover⟩, x, hx, hxover, hcut, hdelivery⟩

end Service

end HttpPipeline
