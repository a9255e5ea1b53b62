import HttpPipeline.Proofs.Serving.Delivery

/-!
# What the client receives after a failure

The stage that recovers decides by a flag whether an error reply can still be sent. The flag
is of use only if it says what the channel says: that the head was sent. The layers further
out pass everything on, but those further in hold statuses and bytes back, repeat some
requests and drop others, so this is a matter of every request that reaches the commit layer.
Over a sink that refuses nothing and drops interim statuses the flag keeps step with the
ledger (`CommitLayer.Tracks`), and with a channel below, the ledger has a status exactly when
the head was sent.

From this follows what the client receives when the handler fails
(`Service.call_recovers`): the error reply and nothing else if the head had not been sent, and
otherwise the response as far as it was written, with nothing added.
-/

namespace HttpPipeline

namespace Polled

/-- The flag of a commit layer over a channel says whether the head was sent. -/
theorem sent_of_tracks {k : Ledger} {l : CommitLayer Polled}
    (h : CommitLayer.Tracks Account k l) : l.written = l.inner.channel.sent.isSome := by
  rw [h.2, ← h.1.status, Option.isSome_map]

/-- The error reply to a client that has received nothing. -/
theorem apology {k : Ledger} {p : Polled} (h : Account k p) (hk : k.status = none) :
    ∃ j, Account j (Sink.errorReply p 500 Recovery.apology) ∧ j.status = some 500 ∧
      j.written = Bytes.ofString Recovery.apology ++ [10] := by
  obtain ⟨j, hj, hwritten, hstatus⟩ :=
    Call.perform_whole keeps whole h (.errorReply 500 Recovery.apology)
  refine ⟨j, hj, ?_, ?_⟩
  · rw [hstatus rfl, hk]
    rfl
  · rw [hwritten, h.empty hk]
    rfl

end Polled

/-- **The stage that recovers** after a failure: the reply, if nothing was committed. -/
theorem Recovery.leave_panicked {ω : Type} [Sink ω] (request : Request)
    {run : Run (CommitLayer ω)} {payload : Panic} (h : run.ending = .panicked payload)
    (hp : payload ≠ .abort) :
    (leave request run).ending = .returned ∧
    (leave request run).writer = (if run.writer.written then run.writer.inner
      else Sink.errorReply run.writer.inner 500 apology) ∧
    ∃ more, (leave request run).world.measurements = run.world.measurements ++ more ∧
      ∀ decision, .compression decision ∉ more := by
  obtain ⟨ending, replies, writer, world⟩ := run
  obtain rfl : ending = .panicked payload := h
  cases payload with
  | abort => exact absurd rfl hp
  | fixed message => exact ⟨rfl, rfl, _, rfl, by simp⟩
  | owned message => exact ⟨rfl, rfl, _, rfl, by simp⟩
  | opaqueValue value => exact ⟨rfl, rfl, _, rfl, by simp⟩

/-- **What is below the stage that recovers**, from what the script left to what the stage
makes of it. -/
theorem Recovery.leave_stopped (request : Request) {run : Run (CommitLayer Polled)}
    {payload : Panic} (hends : run.ending = .panicked payload) (hpayload : payload ≠ .abort)
    {K : Ledger} {left : CommitLayer Polled} {measured : List Measurement}
    (h : Stopped K (CommitLayer.Tracks Polled.Account) left run.writer measured) :
    left.written = left.inner.channel.sent.isSome ∧
    run.writer.written = run.writer.inner.channel.sent.isSome ∧
    ∃ k, Polled.Account k (leave request run).writer ∧
      (left.inner.channel.sent = none → k.status = some 500 ∧
        k.written = Bytes.ofString apology ++ [10]) ∧
      (∀ head, left.inner.channel.sent = some head →
        (leave request run).writer.channel.sent = some head ∧
          Coded measured K.written k.written) := by
  obtain ⟨-, hwriter, -⟩ := leave_panicked request hends hpayload
  rw [hwriter]
  cases h with
  | same k hk hread hbody =>
    have hflag := Polled.sent_of_tracks hk
    rw [hread]
    refine ⟨hflag, hflag, ?_⟩
    cases hsent : left.inner.channel.sent with
    | none =>
      -- nothing was committed, so the reply is all that the client gets
      have hnone : k.status = none := by rw [← hk.1.status, hsent]; rfl
      obtain ⟨j, hj, hstatus, hwritten⟩ := Polled.apology hk.1 hnone
      rw [hflag, hsent, if_neg (by decide)]
      exact ⟨j, hj, fun _ => ⟨hstatus, hwritten⟩, fun head hhead => absurd hhead (by simp)⟩
    | some head =>
      have hsome : k.status.isSome := by rw [← hk.1.status, hsent]; rfl
      rw [hflag, hsent, Option.isSome_some, if_pos rfl]
      exact ⟨k, hk.1, fun hnot => absurd hnot (by simp),
        fun head' hhead => ⟨hsent.trans hhead, hbody hsome⟩⟩
  | ended k k' head hk hk' hknown hknown' hbody =>
    -- the head is known, so it was sent before the member was ended
    have hflag := Polled.sent_of_tracks hk'
    have hleft := hk.1.head head hknown
    have hread := hk'.1.head head hknown'
    refine ⟨Polled.sent_of_tracks hk, hflag, k', ?_, ?_, ?_⟩
    · rw [hflag, hread, Option.isSome_some, if_pos rfl]
      exact hk'.1
    · exact fun hnot => absurd (hleft.symm.trans hnot) (by simp)
    · intro head' hhead
      rw [hflag, hread, Option.isSome_some, if_pos rfl]
      exact ⟨hread.trans (hleft.symm.trans hhead), hbody⟩

namespace Service

variable {ε : Type} [Deflater ε]

/-- **A failure is recovered from.** Let the outermost stage be the one that recovers, with
other stages of the pipeline inside, in any order and each at most once, and let the handler be
a script that ends in a failure other than the wish to drop the connection. The client receives
a response that ends as it should. Let `left` be what the script leaves of the commit layer and
the channel when it fails.

The flag of the layer says whether the head was sent, at that moment and when the stage reads
it. If it was not, the client receives the error reply and nothing else. If it was, the client
receives that head, and all that the script wrote; if the chain compressed it, one member that
holds that. -/
theorem call_recovers (hε : Deflater.EndsDecodable ε) (inner : List (Stage (GzipStream ε)))
    (hsound : ∀ stage ∈ inner, stage.Sound)
    (hnodup : ((.recovery :: inner).map Stage.name).Nodup) (request : Request)
    {frames : List (Except String Bytes)} {body : Bytes} (hbody : collect frames = .ok body)
    (world : World) (hanswers : ∀ stage ∈ inner, stage.answers request world.now = false)
    (script : Script) (hstays : Script.stays script = true) {payload : Panic}
    (hpanics : (Script.course request script).ending = .panicked payload)
    (hpayload : payload ≠ .abort) (polls : List Nat) :
    let outcome := call (.recovery :: inner) script.handler request frames world polls
    let layer : CommitLayer Polled := { inner := { polls } }
    ∃ (e : Entry (GzipStream ε) Polled (.commit .bottom)) (d : Delivery)
      (measured : List Measurement),
      Chain.entry inner { request with body } (.commit .bottom) layer (Recovery.enter world)
        = some e ∧
      outcome.delivery = .ok d ∧
      outcome.world.measurements = world.measurements ++ measured ∧
      d.complete = true ∧
      let left : CommitLayer Polled := e.left script
      let read : CommitLayer Polled := (Chain.serve inner script.handler { request with body }
        (.commit .bottom) layer (Recovery.enter world)).1.writer
      left.written = left.inner.channel.sent.isSome ∧
      read.written = read.inner.channel.sent.isSome ∧
      (left.inner.channel.sent = none → d.head.status = 500 ∧
        d.body = Bytes.ofString "Internal Server Error\n") ∧
      (∀ head, left.inner.channel.sent = some head → d.head = head ∧
        Coded measured (Script.course e.request script).data d.body) := by
  intro outcome layer
  have hends : (Script.course { request with body } script).ending = .panicked payload :=
    (Script.course_alike _ request script).ending.trans hpanics
  obtain ⟨hfirst, hnodup⟩ := List.nodup_cons.mp hnodup
  -- below, the polled channel keeps its account; the commit layer tracks whether a head went out
  have hR := CommitLayer.tracks_keeps Polled.keeps Polled.whole
    fun h _ hcode => Polled.Account.drops h hcode
  have hstart : CommitLayer.Tracks Polled.Account {} layer := ⟨Polled.account_start polls, rfl⟩
  obtain ⟨e, K, measured, hserves⟩ := Chain.serve_passed (s := .commit .bottom)
    (R := CommitLayer.Tracks Polled.Account) hε hstays { request with body } hends inner hsound
    hnodup (.inr hfirst) hR (CommitLayer.tracks_whole Polled.whole)
    (fun _ => CommitLayer.tracks_prompt Polled.prompt) hstart (Recovery.enter world) hanswers
  obtain ⟨hreturned, -, more, hmeasures, hnone⟩ :=
    Recovery.leave_panicked { request with body } hserves.ends hpayload
  -- what recovery leaves turns on that flag: an apology without a head, else what was sent
  obtain ⟨hleft, hread, k, hk, hunsent, hsent⟩ :=
    Recovery.leave_stopped { request with body } hserves.ends hpayload hserves.passed
  obtain ⟨d, hdelivery, hworld, hcomplete, hcode, hwritten, hhead⟩ :=
    finished_delivers (.recovery :: inner) script.handler request hbody world polls rfl
      hreturned hk
  refine ⟨e, d, measured ++ more, hserves.entry, hdelivery, ?_, hcomplete, hleft,
    hread, fun hnot => ?_, fun head hsome => ?_⟩
  · rw [hworld, ← List.append_assoc]
    refine hmeasures.trans ?_
    rw [hserves.measures]
    rfl
  · obtain ⟨hstatus, hbody⟩ := hunsent hnot
    rw [hcode, hwritten, hstatus, hbody]
    exact ⟨rfl, rfl⟩
  · obtain ⟨hkept, hcoded⟩ := hsent head hsome
    refine ⟨hhead head hkept, ?_⟩
    rw [hwritten, ← hserves.written]
    refine hcoded.congr ?_
    rw [List.mem_append, or_iff_left (hnone _)]

/-- A handler that fails after a write and a flush, behind a stage that compresses bodies of
four bytes and more and a stage that keeps the access log. -/
theorem call_recovers_compressing :
    let inner : List (Stage (GzipStream StoredBlocks)) :=
      [.compression 4 (.ofSettings 6 1), .logging]
    let request : Request := { headers := Headers.empty.insert "accept-encoding" [0x2a] }
    let script : Script := [.call (.status 201), .call (.write [1, 2, 3, 4, 5]), .call .flush,
      .call (.hijack []), .call (.write [6]), .panic (.owned "late") true, .call (.write [7])]
    let outcome := call (.recovery :: inner) script.handler request [] {} [2]
    let layer : CommitLayer Polled := { inner := { polls := [2] } }
    ∃ (e : Entry (GzipStream StoredBlocks) Polled (.commit .bottom)) (d : Delivery)
      (measured : List Measurement),
      Chain.entry inner { request with body := [] } (.commit .bottom) layer (Recovery.enter {})
        = some e ∧
      outcome.delivery = .ok d ∧
      outcome.world.measurements = [] ++ measured ∧
      d.complete = true ∧
      let left : CommitLayer Polled := e.left script
      let read : CommitLayer Polled := (Chain.serve inner script.handler { request with body := [] }
        (.commit .bottom) layer (Recovery.enter {})).1.writer
      left.written = left.inner.channel.sent.isSome ∧
      read.written = read.inner.channel.sent.isSome ∧
      (left.inner.channel.sent = none → d.head.status = 500 ∧
        d.body = Bytes.ofString "Internal Server Error\n") ∧
      (∀ head, left.inner.channel.sent = some head → d.head = head ∧
        Coded measured (Script.course e.request script).data d.body) := by
  intro inner request script
  have hsound : ∀ stage ∈ inner, stage.Sound := by
    intro stage hstage
    rcases List.mem_cons.mp hstage with rfl | hstage
    · exact EncoderPool.Reachable.made 6 1
    · rw [List.mem_singleton.mp hstage]
      trivial
  have hpayload : Panic.owned "late" ≠ .abort := by decide
  -- the theorem at a handler that panics after it has written and flushed
  exact call_recovers (Deflater.endsDecodable StoredBlocks) inner hsound (by decide) request rfl {}
    (by simp [inner, Stage.answers]) script rfl rfl hpayload [2]

end Service

end HttpPipeline
