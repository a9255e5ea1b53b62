import HttpPipeline.Serving.Service
import HttpPipeline.Proofs.Response.Polled
import HttpPipeline.Proofs.Serving.Passage

/-!
# What the client receives

Between a handler and its client there are the layers of a chain, a channel and the client's
polls. For a handler that returns, none of them shows: the client receives the status that
the handler gave first and every byte it wrote, in order (`Service.call_delivers`). A body
that the chain compressed arrives as one member that holds those bytes.

This is so for the chain of any settings, after any number of requests, however the client
polls while the response is written.
-/

namespace HttpPipeline

namespace Chain

variable {ε : Type} [Deflater ε]

theorem became_chain (settings : ChainSettings) (host : Option Bytes) (now : Int) :
    Became (settings.chain (τ := GzipStream ε) host now).1
      (settings.chain (τ := GzipStream ε) host now).1 :=
  List.forall₂_same.mpr fun stage hstage => (settings.sound_chain host now stage hstage).became

end Chain

namespace Service

section Streams

variable {τ : Type} [MemberStream τ]

/-- Serving a request whose body was collected. -/
theorem call_of_collect (stages : List (Stage τ)) (handler : Handler τ Polled) (request : Request)
    {frames : List (Except String Bytes)} {body : Bytes} (hbody : collect frames = .ok body)
    (world : World) (polls : List Nat) {run : Run Polled}
    (hrun : (Chain.serve stages handler { request with body } .bottom
      ({ polls } : Polled) world).1 = run) :
    (call stages handler request frames world polls).delivery =
        (match (conclude run).1.channel.sent with
        | some head => .ok ⟨head, (conclude run).1.toEnd.received⟩
        | none => .error .aborted) ∧
      (call stages handler request frames world polls).world = (conclude run).2 := by
  subst hrun
  unfold call
  rw [hbody]
  exact ⟨rfl, rfl⟩

/-- **A response that was finished is received whole.** -/
theorem finished_delivers (stages : List (Stage τ)) (handler : Handler τ Polled)
    (request : Request) {frames : List (Except String Bytes)} {body : Bytes}
    (hbody : collect frames = .ok body) (world : World) (polls : List Nat) {run : Run Polled}
    (hrun : (Chain.serve stages handler { request with body } .bottom
      ({ polls } : Polled) world).1 = run)
    (hreturned : run.ending = .returned) {k : Ledger} (hk : Polled.Account k run.writer) :
    ∃ d : Delivery, (call stages handler request frames world polls).delivery = .ok d ∧
      (call stages handler request frames world polls).world = run.world ∧
      d.complete = true ∧ d.head.status = k.status.getD 200 ∧ d.body = k.written ∧
      ∀ sent, run.writer.channel.sent = some sent → d.head = sent := by
  obtain ⟨hdelivery, hworld⟩ := call_of_collect stages handler request hbody world polls hrun
  obtain ⟨head, hsent, hstatus, hsame, huncut, hwritten⟩ := hk.finish
  have hconclude : conclude run = (run.writer.finish, run.world) := by
    rw [conclude, hreturned]
  rw [hconclude] at hdelivery hworld
  simp only [hsent] at hdelivery
  refine ⟨_, hdelivery, hworld, ?_, hstatus, hwritten, hsame⟩
  rw [Delivery.complete, Bool.not_eq_true', List.contains_eq_mem, decide_eq_false_iff_not]
  exact huncut

end Streams

variable {ε : Type} [Deflater ε]

/-- **Nothing of a chain shows** but compression. Take the chain of any settings, after any
number of requests, a request that no stage answers in place of the handler, and a script for
a handler that returns and gives no interim status but `101`. However the client polls, it
receives a response, and the response ends as it should. Its status is the first that the
script gave or implied, and `200` if there was none. Its body is all that the script wrote; if
the chain compressed it, one member that holds that. -/
theorem call_delivers (hε : Deflater.EndsDecodable ε) (settings : ChainSettings)
    (host : Option Bytes) (start : Int) {stages : List (Stage (GzipStream ε))}
    (hstages : Chain.Became (settings.chain host start).1 stages) (request : Request)
    {frames : List (Except String Bytes)} {body : Bytes} (hbody : collect frames = .ok body)
    (world : World) (hanswers : ∀ stage ∈ stages, stage.answers request world.now = false)
    (script : Script) (hstays : Script.stays script = true)
    (hreturns : (Script.course request script).ending = .returned)
    (hfinal : (Script.course request script).isFinal = true) (polls : List Nat) :
    let outcome := call stages script.handler request frames world polls
    ∃ (e : Entry (GzipStream ε) Polled .bottom) (d : Delivery) (measured : List Measurement),
      Chain.entry stages { request with body } .bottom ({ polls } : Polled) world = some e ∧
      outcome.delivery = .ok d ∧
      outcome.world.measurements = world.measurements ++ measured ∧
      d.complete = true ∧
      d.head.status = (Script.course e.request script).status?.getD 200 ∧
      Coded measured (Script.course e.request script).data d.body := by
  intro outcome
  -- the body of the request does not matter for how the script ends
  have hends : (Script.course { request with body } script).ending = .returned :=
    (Script.course_alike _ request script).ending.trans hreturns
  have hnodup : (stages.map Stage.name).Nodup := by
    rw [hstages.names]
    exact settings.nodup_chain host start
  obtain ⟨e, K, measured, hserves⟩ := Chain.serve_passed (s := .bottom)
    (R := Polled.Account) hε hstays { request with body } hends stages hstages.sound hnodup
    (.inl rfl) Polled.keeps Polled.whole (fun _ => Polled.prompt) (Polled.account_start polls)
    world hanswers
  obtain ⟨k, hk, hstatus, hcoded⟩ := hserves.passed
  obtain ⟨d, hdelivery, hworld, hcomplete, hcode, hwritten, -⟩ :=
    finished_delivers stages script.handler request hbody world polls rfl hserves.ends hk
  refine ⟨e, d, measured, hserves.entry, hdelivery, ?_, hcomplete, ?_, ?_⟩
  · rw [hworld]
    exact hserves.measures
  · rw [hcode, hstatus, hserves.status]
    rw [(Script.course_alike e.request request script).isFinal]
    exact hfinal
  · rw [hwritten, ← hserves.written]
    exact hcoded

/-- A request goes through the chain that is built by default, and a script answers it in pieces,
some of them small, one of them the body of the request. -/
theorem call_delivers_default :
    let stages : List (Stage Stored) := (({} : ChainSettings).chain none 0).1
    let request : Request := { headers := Headers.empty.insert "accept-encoding" [0x2a] }
    let script : Script := [.call (.status 201), .call (.writeAll [0x68, 0x69]), .call .flush,
      .attempt [.echo .body, .panic (.fixed "late") true], .repeated 2 [.call (.write [0x21])],
      .call (.hijack []), .call (.status 500)]
    let outcome := call stages script.handler request [.ok [1], .ok [2]] {} [1, 0, 3]
    ∃ (e : Entry Stored Polled .bottom) (d : Delivery) (measured : List Measurement),
      Chain.entry stages { request with body := [1, 2] } .bottom
        ({ polls := [1, 0, 3] } : Polled) {} = some e ∧
      outcome.delivery = .ok d ∧
      outcome.world.measurements = [] ++ measured ∧
      d.complete = true ∧
      d.head.status = 201 ∧
      Coded measured ([0x68, 0x69] ++ (e.request.body ++ [0x21, 0x21])) d.body :=
  call_delivers (Deflater.endsDecodable StoredBlocks) {} none 0 (Chain.became_chain {} none 0) _
    rfl {} (by simp [ChainSettings.chain, Stage.answers, Compression.Settings.stage]) _ rfl rfl rfl
    [1, 0, 3]

end Service

end HttpPipeline
