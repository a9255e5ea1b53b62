import HttpPipeline.Proofs.Serving.HeaderPath

/-!
# What a response varies with

A cache may give a response to another request only if the two agree in the headers that `Vary`
names. The stage for requests from other origins and the stage that compresses announce there what
they go by (`Stage.varies`), whatever they then make of the request, and before the handler is
reached. They announce it in the live headers. No layer and no stage edits this header afterwards
(`Chain.serve_announces`), but the handler may, until the head is sent: what the client sees is the
announcement as edited by the calls before that moment (`Chain.serve_varies`). A handler that sets
or removes the header takes the announcement back, although the response goes on depending on what
was announced (`Chain.serve_unvaried`).
-/

namespace HttpPipeline

/-- The one header that says what a response varies with. -/
def isVary (name : String) : Bool := name == "vary"

/-- No reply declares what it varies with. -/
theorem isVary_reply : ∀ name ∈ ["content-length", "content-type", "x-content-type-options"],
    isVary name = false := by decide

/-- Neither does compression. -/
theorem mayCompress_vary : GzipLayer.MayCompress (.sparing isVary) :=
  GzipLayer.mayCompress_sparing (by decide)

/-- What a stage announces that a response varies with. -/
def Stage.varies {τ : Type} : Stage τ → List Bytes
  | .cors _ => [Bytes.ofString "Origin"]
  | .compression .. => [Bytes.ofString "Accept-Encoding"]
  | _ => []

/-- **A stage announces** what the response varies with, and edits nothing else of it. -/
theorem Stage.values_edits {τ : Type} (stage : Stage τ) (request : Request) (world : World)
    (h : Headers) :
    ((stage.edits request world).foldl (fun h edit => edit h) h).values "vary"
      = h.values "vary" ++ stage.varies := by
  cases stage with
  | requestId generator =>
    exact (Headers.values_insert_of_ne _ _ (by decide)).trans (List.append_nil _).symm
  | cors policy =>
    have hannounced : (CorsPolicy.vary h "Origin").values "vary"
        = h.values "vary" ++ [Bytes.ofString "Origin"] := Headers.values_append_self _ _ _
    simp only [edits]
    cases policy.allowedOrigin? request.headers with
    | none => exact hannounced
    | some origin => exact (policy.values_grant_other origin _ (by decide)).trans hannounced
  | compression minSize pool => exact Headers.values_append_self _ _ _
  | _ => exact (List.append_nil _).symm

namespace Chain

variable {τ σ : Type} [MemberStream τ] [Sink σ] {sent : σ → Option Head}

/-- What reaches the script of a chain, and what comes back of what its calls leave: the
announcements stand, the head is not sent on the way, and nobody touches the header on the way
back. -/
structure Announces (sent : σ → Option Head) (script : Script) {s : Stack}
    (stages : List (Stage τ)) (request : Request) (w : s.Writer τ σ) (world : World)
    (e : Entry τ σ s) : Prop where
  entry : entry stages request s w world = some e
  unsent : sent (e.shape.base e.writer) = sent (s.base w)
  values : (Sink.headers e.writer).values "vary"
    = (Sink.headers w).values "vary" ++ stages.flatMap Stage.varies
  spared : Sink.Reached (.sparing isVary)
    (e.shape.base (Call.performAll (Script.course e.request script).calls e.writer).2)
    (s.base (serve stages script.handler request s w world).1.writer)

/-- **Every chain announces** what its stages go by. -/
theorem serve_announces {script : Script} (hsent : Sink.SendsHead sent)
    (hstays : Script.stays script = true) (request : Request) (stages : List (Stage τ))
    (hsound : ∀ stage ∈ stages, stage.Sound) {s : Stack} (w : s.Writer τ σ) (world : World)
    (hanswers : ∀ stage ∈ stages, stage.answers request world.now = false) :
    ∃ e, Announces sent script stages request w world e := by
  have hname : "vary" ∉ bodyHeaders := by decide
  obtain ⟨e, he⟩ := serve_carries hsent hname request stages hsound
    (fun stage _ => stage.values_edits) w world hanswers
  have hspared := he.spared script.handler
  rw [Script.handler, (Script.follows script hstays e.request e.shape e.writer e.world).2.1]
    at hspared
  exact ⟨e, he.entry, he.unsent, he.values, hspared⟩

/-- **What a response varies with**, as the client sees it. Let no stage of the pipeline answer the
request, and let the handler be a script; the head has not been sent.

The handler is reached with all announcements. There is a moment between two of its calls at which
the head is sent, or after all of them, and the client sees the announcements as the calls before
that moment have edited them, however the script ends and whatever is asked of the sink later that
leaves them alone. So it sees every announcement if none of these calls sets or removes the
header. -/
theorem serve_varies (hsent : Sink.FixesHead sent) (stages : List (Stage τ))
    (hsound : ∀ stage ∈ stages, stage.Sound) (request : Request) (s : Stack)
    (w : s.Writer τ σ) (hunsent : sent (s.base w) = none) (world : World)
    (hanswers : ∀ stage ∈ stages, stage.answers request world.now = false) (script : Script)
    (hstays : Script.stays script = true) :
    let run := (serve stages script.handler request s w world).1
    let announced := (Sink.headers w).values "vary" ++ stages.flatMap Stage.varies
    ∃ e, entry stages request s w world = some e ∧
      (Sink.headers e.writer).values "vary" = announced ∧
      let calls := (Script.course e.request script).calls
      ∃ n ≤ calls.length,
        sent (e.shape.base (Call.performAll (calls.take n) e.writer).2) = none ∧
        (n < calls.length →
          (sent (e.shape.base (Call.performAll (calls.take (n + 1)) e.writer).2)).isSome) ∧
        ∀ later, Sink.Reached (.sparing isVary) (s.base run.writer) later →
          (Sink.carried sent later).values "vary"
            = (Call.editedAll (calls.take n) (Sink.headers e.writer)).values "vary" ∧
          ((∀ call ∈ calls.take n, call.loses "vary" = false) →
            ∀ value ∈ announced, value ∈ (Sink.carried sent later).values "vary") := by
  intro run announced
  obtain ⟨e, he⟩ := serve_announces hsent.toSendsHead hstays request stages hsound w world hanswers
  obtain ⟨n, hn, hstill, hsends, hcarried⟩ := e.shape.exists_moment hsent mayCompress_vary
    isVary_reply e.writer (he.unsent.trans hunsent) (Script.course e.request script).calls
  refine ⟨e, he.entry, he.values, n, hn, hstill, hsends, fun later hlater => ?_⟩
  have hvalues := hcarried later (he.spared.trans hlater) "vary" (by decide)
  refine ⟨hvalues, fun hkeeps value hvalue => ?_⟩
  rw [hvalues]
  exact Call.mem_values_editedAll hkeeps (by decide) (he.values ▸ hvalue)

/-- A handler that adds to the announcements and writes. The client sees them all. -/
theorem serve_varies_more :
    let policy := (CorsPolicy.ofSettings {} []).1
    let stages : List (Stage Stored) := [.cors policy, .compression 4 (.ofSettings 6 1)]
    let script : Script :=
      [.call (.append (Bytes.ofString "vary") (Bytes.ofString "Cookie")), .call (.write [1])]
    let run := (serve stages script.handler {} .bottom ({} : Recorder) {}).1
    ∀ value ∈ [Bytes.ofString "Origin", Bytes.ofString "Accept-Encoding"],
      value ∈ (Sink.carried Recorder.sent run.writer).values "vary" := by
  intro policy stages script run
  have hsound : ∀ stage ∈ stages, stage.Sound := by
    intro stage hstage
    rcases List.mem_cons.mp hstage with rfl | hstage
    · trivial
    · rw [List.mem_singleton.mp hstage]
      exact EncoderPool.Reachable.made 6 1
  have hanswers : ∀ stage ∈ stages, stage.answers {} (0 : Int) = false := by decide
  obtain ⟨e, -, -, n, -, -, -, hsees⟩ := serve_varies Recorder.fixesHead stages hsound {} .bottom
    ({} : Recorder) rfl {} hanswers script rfl
  refine (hsees run.writer .refl).2 fun call hcall => ?_
  -- the calls of the script do not depend on the request
  have hcalls : ∀ call ∈ (Script.course e.request script).calls, call.loses "vary" = false := by
    intro call hcall
    change call ∈ [Call.append (Bytes.ofString "vary") (Bytes.ofString "Cookie"), .write [1]]
      at hcall
    revert call
    decide
  exact hcalls call (List.mem_of_mem_take hcall)

/-- **A handler that removes the header.** The response allows the one origin that asked, and the
client sees nothing of what it varies with. -/
theorem serve_unvaried :
    let policy := (CorsPolicy.ofSettings { allowedOrigins := ["a.test"] } []).1
    let stages : List (Stage Stored) := [.cors policy, .compression 4 (.ofSettings 6 1)]
    let origin := Bytes.ofString "https://a.test"
    let script : Script := [.call (.remove (Bytes.ofString "vary")), .call (.write [65])]
    let sink : Recorder := (serve stages script.handler { headers := ⟨[("origin", origin)]⟩ }
      .bottom ({} : Recorder) {}).1.writer
    let head := Sink.carried Recorder.sent sink
    sink.sent.isSome = true ∧ head.values "access-control-allow-origin" = [origin] ∧
      head.values "vary" = [] := by
  decide +kernel

end Chain

end HttpPipeline
