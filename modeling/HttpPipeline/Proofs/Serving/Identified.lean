import HttpPipeline.Proofs.Serving.HeaderPath

/-!
# The identifier in the log of a failure

The stage that recovers is outside the one that assigns an identifier to a request, so it does not
see the request that the handler sees. When the handler fails, it takes the identifier for its log
entry from the live headers of the response, where the other stage has put it as well.

Between the two there is the handler. Stages and layers leave this header alone, so the entry names
the first value that the handler has left (`Chain.serve_identifies`), and this is the identifier of
the request if the handler neither sets nor removes the header. A handler that does so decides what
is logged (`Chain.serve_misidentified`).
-/

namespace HttpPipeline

/-! ### Identifiers -/

/-- It does not matter for it who watches. -/
theorem Recovery.chooseId_enter (generator : Generator) (headers : Headers) (world : World) :
    (chooseId generator headers (enter world)).1 = (chooseId generator headers world).1 := by
  unfold chooseId
  split <;> rfl

/-! ### A failure on its way outwards -/

/-- A failure comes out as it was raised, and nothing was logged on the way. -/
structure Run.Escapes {ω ω' : Type} (payload : Panic) (left : Run ω) (run : Run ω') : Prop where
  ending : run.ending = .panicked payload
  events : run.world.events = left.world.events
  traced : run.world.traced = left.world.traced

namespace Run.Escapes

variable {τ ω ω' : Type} [MemberStream τ] [Sink ω] {payload : Panic} {left : Run ω'}

theorem logging {run : Run (StatusLayer ω)} (h : Escapes payload left run) (request : Request)
    (start : Int) : Escapes payload left (AccessLog.leave request start run) := by
  obtain ⟨ending, replies, writer, world⟩ := run
  obtain rfl : ending = .panicked payload := h.ending
  exact ⟨rfl, h.events, h.traced⟩

theorem compression {run : Run (GzipLayer τ ω)} (h : Escapes payload left run)
    (pool : EncoderPool τ) : Escapes payload left (Compression.leave pool run).1 := by
  obtain ⟨ending, replies, writer, world⟩ := run
  obtain rfl : ending = .panicked payload := h.ending
  exact ⟨rfl, (List.append_nil _).trans h.events, h.traced⟩

end Run.Escapes

/-- **The stage that recovers** logs a failure last of all. Of a request that came without an
identifier it logs what the header of the response says. -/
theorem Recovery.leave_logs {ω : Type} [Sink ω] {request : Request} (hunknown : request.id = none)
    {run : Run (CommitLayer ω)} {payload : Panic} (h : run.ending = .panicked payload)
    (hpayload : payload ≠ .abort) {logged : Option String}
    (hlogged : (Sink.headers run.writer).text? idHeader = logged) :
    (leave request run).world.events = run.world.events ++
      [.panicRecovered payload.message run.world.traced request.method request.path logged
        run.writer.written] := by
  obtain ⟨ending, replies, writer, world⟩ := run
  obtain rfl : ending = .panicked payload := h
  have hfound : loggedId? request writer = logged := by
    rw [loggedId?, hunknown, ← hlogged]
    rfl
  subst hfound
  cases payload with
  | abort => exact absurd rfl hpayload
  | _ => rfl

namespace Chain

variable {τ σ : Type} [MemberStream τ] [Sink σ] {stages : List (Stage τ)} {request : Request}
  {world : World} {s : Stack} {w : s.Writer τ σ} {e : Entry τ σ s}

/-- **A failure goes outwards** through stages that do not recover from it. -/
theorem serve_escapes (hsound : ∀ stage ∈ stages, stage.Sound)
    (hrecovery : "recovery" ∉ stages.map Stage.name)
    (hanswers : ∀ stage ∈ stages, stage.answers request world.now = false) (handler : Handler τ σ)
    (hentry : entry stages request s w world = some e) {payload : Panic}
    (hfails : (handler e.request e.shape e.writer e.world).ending = .panicked payload) :
    Run.Escapes payload (handler e.request e.shape e.writer e.world)
      (serve stages handler request s w world).1 := by
  revert hrecovery e
  refine onward_induction (motive := fun stages request s w world =>
    ∀ {e : Entry τ σ s}, "recovery" ∉ stages.map Stage.name →
      entry stages request s w world = some e →
      (handler e.request e.shape e.writer e.world).ending = .panicked payload →
      Run.Escapes payload (handler e.request e.shape e.writer e.world)
        (serve stages handler request s w world).1)
    ?nil ?pass ?recovery ?logging ?compression hsound hanswers s w
  case nil =>
    intro request s w world e _ hentry hfails
    obtain rfl := Option.some.inj hentry
    exact ⟨hfails, rfl, rfl⟩
  case pass =>
    intro stage inner request s w world hstage hanswer hlayers ih e hrecovery hentry hfails
    rw [entry_onward hstage hanswer hlayers] at hentry
    rw [serve_onward hstage hanswer hlayers]
    exact ih (fun hmem => hrecovery (List.mem_cons_of_mem _ hmem)) hentry hfails
  case recovery =>
    -- the stage is excluded: nothing escapes from it
    intro inner request s w world _ e hrecovery
    exact absurd List.mem_cons_self hrecovery
  case logging =>
    intro inner request s w world ih e hrecovery hentry hfails
    obtain ⟨e', hentry', rfl⟩ := Option.map_eq_some_iff.mp hentry
    exact (ih (fun hmem => hrecovery (List.mem_cons_of_mem _ hmem)) hentry' hfails).logging
      request world.now
  case compression =>
    intro minSize pool inner request s w world haccepts ih e hrecovery hentry hfails
    rw [entry_compressing haccepts] at hentry
    obtain ⟨e', hentry', rfl⟩ := Option.map_eq_some_iff.mp hentry
    rw [serve_compressing haccepts]
    exact (ih (fun hmem => hrecovery (List.mem_cons_of_mem _ hmem)) hentry' hfails).compression _

/-- **The request stays as it is** but for its identifier. -/
theorem entry_request (hsound : ∀ stage ∈ stages, stage.Sound)
    (hid : "request_id" ∉ stages.map Stage.name)
    (hanswers : ∀ stage ∈ stages, stage.answers request world.now = false)
    (hentry : entry stages request s w world = some e) : e.request = request := by
  revert hid e
  refine onward_induction (motive := fun stages request s w world =>
    ∀ {e : Entry τ σ s}, "request_id" ∉ stages.map Stage.name →
      entry stages request s w world = some e → e.request = request)
    ?nil ?pass ?recovery ?logging ?compression hsound hanswers s w
  case nil =>
    intro request s w world e _ hentry
    obtain rfl := Option.some.inj hentry
    rfl
  case pass =>
    intro stage inner request s w world hstage hanswer hlayers ih e hid hentry
    rw [entry_onward hstage hanswer hlayers] at hentry
    rw [ih (fun hmem => hid (List.mem_cons_of_mem _ hmem)) hentry]
    -- of the stages that add no layer, this one alone hands on another request
    cases stage with
    | requestId generator => exact absurd List.mem_cons_self hid
    | _ => rfl
  case recovery =>
    intro inner request s w world ih e hid hentry
    obtain ⟨e', hentry', rfl⟩ := Option.map_eq_some_iff.mp hentry
    exact ih (fun hmem => hid (List.mem_cons_of_mem _ hmem)) hentry'
  case logging =>
    intro inner request s w world ih e hid hentry
    obtain ⟨e', hentry', rfl⟩ := Option.map_eq_some_iff.mp hentry
    exact ih (fun hmem => hid (List.mem_cons_of_mem _ hmem)) hentry'
  case compression =>
    intro minSize pool inner request s w world haccepts ih e hid hentry
    rw [entry_compressing haccepts] at hentry
    obtain ⟨e', hentry', rfl⟩ := Option.map_eq_some_iff.mp hentry
    exact ih (fun hmem => hid (List.mem_cons_of_mem _ hmem)) hentry'

end Chain

/-! ### The log entry -/

/-- What is read of a header depends on its values. -/
theorem Headers.text?_congr {h h' : Headers} {name : String}
    (hsame : h.values name = h'.values name) : h.text? name = h'.text? name := by
  rw [text?, get?, hsame, text?, get?]

/-- Only one stage writes the identifier of a request. -/
theorem Stage.adds_id {τ : Type} [MemberStream τ] {stage : Stage τ} (hsound : stage.Sound)
    (hid : stage.name ≠ "request_id") : stage.Adds idHeader [] := by
  intro request world h
  rw [List.append_nil]
  cases stage with
  | requestId generator => exact absurd rfl hid
  | cors policy =>
    have hvaried : (CorsPolicy.vary h "Origin").values idHeader = h.values idHeader :=
      Headers.values_append_of_ne _ _ (by decide)
    simp only [edits]
    cases policy.allowedOrigin? request.headers with
    | none => exact hvaried
    | some origin => exact (policy.values_grant_other origin _ (by decide)).trans hvaried
  | compression minSize pool => exact Headers.values_append_of_ne _ _ (by decide)
  | custom stage => exact absurd hsound id
  | _ => rfl

/-- The first value is all that matters. -/
theorem Headers.text?_of_first {h : Headers} {name : String} {value : Bytes}
    (hfirst : [value] <+: h.values name) : h.text? name = visibleText? value := by
  obtain ⟨more, hmore⟩ := hfirst
  rw [text?, get?, ← hmore]
  rfl

/-- **A chain that recovers and assigns identifiers** begins with the two stages that do so. -/
theorem ChainSettings.became_identified {τ : Type} [MemberStream τ] {settings : ChainSettings}
    (hrecovery : settings.recovery = true) (hid : settings.requestId = true) {host : Option Bytes}
    {start : Int} {stages : List (Stage τ)}
    (h : Chain.Became (settings.chain host start).1 stages) :
    ∃ generator inner, stages = .recovery :: .requestId generator :: inner ∧
      "recovery" ∉ inner.map Stage.name ∧ "request_id" ∉ inner.map Stage.name := by
  have hnodup : (stages.map Stage.name).Nodup := by
    rw [h.names]
    exact settings.nodup_chain host start
  simp only [chain, hrecovery, hid, if_true, List.cons_append, List.nil_append,
    List.append_assoc] at h
  obtain ⟨_, _, hfirst, hrest, rfl⟩ := List.forall₂_cons_left_iff.mp h
  obtain ⟨_, inner, hsecond, -, rfl⟩ := List.forall₂_cons_left_iff.mp hrest
  cases hfirst
  cases hsecond with
  | requestId first generator =>
    obtain ⟨hnot, hnodup⟩ := List.nodup_cons.mp hnodup
    exact ⟨generator, inner, rfl, fun hmem => hnot (List.mem_cons_of_mem _ hmem),
      (List.nodup_cons.mp hnodup).1⟩

namespace Chain

variable {τ σ : Type} [MemberStream τ] [Sink σ] {sent : σ → Option Head}

/-- **The identifier of a failed request.** Take the chain of any settings that recover and assign
identifiers, after any number of requests, and a request that has no identifier yet and that no
stage answers. The handler finds the identifier that the stage assigns: in the request, and as the
only value of the header of the response. It has 1 to 256 bytes, all of printable ASCII.

If a script then fails with anything but the wish to drop the connection, the stage that recovers
logs this last of all, with the first value of the header that the script has left in the place of
the identifier. That is the identifier of the request if no step of the script sets or removes the
header. -/
theorem serve_identifies (hsent : Sink.SendsHead sent) (settings : ChainSettings)
    (hrecovery : settings.recovery = true) (hid : settings.requestId = true) (host : Option Bytes)
    (start : Int) {stages : List (Stage τ)} (hstages : Became (settings.chain host start).1 stages)
    (request : Request) (hunknown : request.id = none) (s : Stack) (w : s.Writer τ σ)
    (world : World) (hanswers : ∀ stage ∈ stages, stage.answers request world.now = false) :
    ∃ (generator : Generator) (e : Entry τ σ s), .requestId generator ∈ stages ∧
      let id := (chooseId generator request.headers world).1
      entry stages request s w world = some e ∧ e.request.id = some id ∧
      (Sink.headers e.writer).values idHeader = [Bytes.ofString id] ∧
      isAcceptableId (Bytes.ofString id) = true ∧
      ∀ (script : Script) (payload : Panic), payload ≠ .abort →
        let left := Step.runAll script e.request e.shape e.writer e.world
        left.ending = .panicked payload →
        let run := (serve stages script.handler request s w world).1
        ∃ (logged : Option String) (written : Bool),
          run.world.events = left.world.events ++
            [.panicRecovered payload.message left.world.traced request.method request.path logged
              written] ∧
          logged = (Sink.headers left.writer).text? idHeader ∧
          (Script.keeps idHeader script = true → logged = some id) := by
  have hname : idHeader ∉ bodyHeaders := by decide
  obtain ⟨generator, inner, rfl, honce, hnone⟩ :=
    ChainSettings.became_identified hrecovery hid hstages
  have hfurther {stage : Stage τ} (hstage : stage ∈ inner) :
      stage ∈ .recovery :: .requestId generator :: inner :=
    List.mem_cons_of_mem _ (List.mem_cons_of_mem _ hstage)
  have hsound : ∀ stage ∈ inner, stage.Sound := fun stage hstage =>
    hstages.sound stage (hfurther hstage)
  have hadds : ∀ stage ∈ inner, stage.Adds idHeader [] := fun stage hstage =>
    stage.adds_id (hsound stage hstage) fun hname =>
      hnone (List.mem_map.mpr ⟨stage, hstage, hname⟩)
  -- what the two stages hand on
  let stage : Stage τ := .requestId generator
  let layer : (Stack.commit s).Writer τ σ := ({ inner := w } : CommitLayer (s.Writer τ σ))
  let handed := Sink.editAll layer (stage.edits request (Recovery.enter world))
  have hinner : ∀ further ∈ inner, further.answers request (Recovery.enter world).now = false :=
    fun further hmem => hanswers further (hfurther hmem)
  have hanswers' := Stage.answers_onward hinner stage
  have hchosen := Recovery.chooseId_enter generator request.headers world
  obtain ⟨hacceptable, hread⟩ := chooseId_spec generator request.headers world
  have hwritten : (Sink.headers handed).values idHeader
      = [Bytes.ofString (chooseId generator request.headers world).1] := by
    rw [(editAll_headers hsent _ layer _).2, ← hchosen]
    exact Headers.values_insert_self _ _ _
  obtain ⟨e, he⟩ := serve_carries hsent hname _ inner hsound hadds handed _ hanswers'
  have hstage : stage.Sound := trivial
  have hentry : entry (.recovery :: .requestId generator :: inner) request s w world
      = some (e.through CommitLayer.inner) := by
    show (entry (stage :: inner) request (.commit s) layer (Recovery.enter world)).map _ = _
    rw [entry_onward hstage rfl rfl, he.entry]
    rfl
  have hfound : (Sink.headers e.writer).values idHeader
      = [Bytes.ofString (chooseId generator request.headers world).1] := by
    rw [he.values, hwritten, List.flatMap_eq_nil_iff.mpr fun _ _ => rfl, List.append_nil]
  refine ⟨generator, e.through CommitLayer.inner, List.mem_cons_of_mem _ List.mem_cons_self,
    hentry, ?_, hfound, hacceptable, ?_⟩
  · rw [← hchosen]
    exact congrArg Request.id (entry_request hsound hnone hanswers' he.entry)
  · intro script payload hpayload left hfails run
    have hescapes := serve_escapes hsound honce hanswers' script.handler he.entry hfails
    -- what the script has left of the header is what the stage finds
    have hspared := hsent.values_spared (he.spared script.handler)
    rw [← Stack.headers_base, ← Stack.headers_base] at hspared
    have hlogs := Recovery.leave_logs hunknown hescapes.ending hpayload
      (Headers.text?_congr hspared)
    rw [hescapes.events, hescapes.traced] at hlogs
    have hrun : run = Recovery.leave request
        (serve inner script.handler (stage.completes request (Recovery.enter world)) (.commit s)
          handed (stage.onward request (Recovery.enter world))).1 := by
      show Recovery.leave request
        (serve (stage :: inner) script.handler request (.commit s) layer
          (Recovery.enter world)).1 = _
      rw [serve_onward hstage rfl rfl]
    rw [← hrun] at hlogs
    refine ⟨_, _, hlogs, rfl, fun hkeeps => ?_⟩
    have hstands := Script.prefixed hsent hname script hkeeps e.request e.shape e.writer e.world
    rw [Sink.Prefixed, ← Stack.headers_base, ← Stack.headers_base, hfound] at hstands
    exact (Headers.text?_of_first hstands).trans hread

/-- A client sends an identifier along. The handler puts another value behind it, and fails. -/
theorem serve_identifies_own :
    let stages : List (Stage Stored) := (({} : ChainSettings).chain none 0).1
    let request : Request :=
      { headers := ⟨[("x-request-id", Bytes.ofString "abc"),
          ("accept-encoding", Bytes.ofString "gzip")]⟩ }
    let script : Script := [.call (.append (Bytes.ofString "X-Request-Id") (Bytes.ofString "xyz")),
      .call (.set (Bytes.ofString "x-trace") (Bytes.ofString "1")), .call (.write [65]),
      .panic (.fixed "boom") true]
    let run := (serve stages script.handler request .bottom ({} : Recorder) {}).1
    ∃ before traced written, run.world.events = before ++
      [.panicRecovered "boom" traced "GET" "/" (some "abc") written] := by
  intro stages request script run
  have hanswers : ∀ stage ∈ stages, stage.answers request (0 : Int) = false := by decide +kernel
  have hpayload : Panic.fixed "boom" ≠ .abort := by decide
  obtain ⟨generator, e, -, -, -, -, -, hlogs⟩ := serve_identifies Recorder.sendsHead
    {} rfl rfl none 0 (became_chain {} none 0) request rfl .bottom ({} : Recorder) {} hanswers
  obtain ⟨logged, written, hevents, -, hlogged⟩ := hlogs script (.fixed "boom") hpayload
    ((Script.follows script rfl e.request e.shape e.writer e.world).1.trans rfl)
  have hinbound : inboundId? request.headers = some "abc" := by decide +kernel
  -- the script appends to the header and never removes from it, so the first value stays
  have hkeeps : Script.keeps idHeader script = true := by decide +kernel
  rw [hlogged hkeeps, chooseId, hinbound] at hevents
  exact ⟨_, _, written, hevents⟩

/-- **A handler that removes the header** takes the identifier out of the log, and one that sets it
puts there what it likes, printable or not. The request had an identifier in both cases. -/
theorem serve_misidentified :
    let settings : ChainSettings := { logging := false, compression := none }
    let stages : List (Stage Stored) := (settings.chain none 0).1
    let request : Request := { headers := ⟨[("x-request-id", Bytes.ofString "abc")]⟩ }
    let logged (call : Call) : List Event :=
      let script : Script := [.call call, .panic (.fixed "boom") true]
      (serve stages script.handler request .bottom ({} : Recorder) {}).1.world.events
    (entry stages request .bottom ({} : Recorder) {}).map (·.request.id) = some (some "abc") ∧
      logged (.remove (Bytes.ofString "x-request-id"))
        = [.panicRecovered "boom" true "GET" "/" none false] ∧
      logged (.set (Bytes.ofString "x-request-id") [9])
        = [.panicRecovered "boom" true "GET" "/" (some "\t") false] ∧
      isAcceptableId (Bytes.ofString "\t") = false := by
  decide +kernel

end Chain

end HttpPipeline
