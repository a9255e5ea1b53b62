import HttpPipeline.Proofs.Serving.Delivery
import HttpPipeline.Proofs.Serving.Handing
import HttpPipeline.Proofs.Origin.Policy

/-!
# What the stage for other origins does

The stage for requests from other origins answers a preflight from an allowed origin itself, and
hands every other request on as it is (`Chain.serve_crossing`). In the first case nothing further in
has any part in the answer: neither the handler nor a stage whose state a request would change. In
the second the response is handed on with other headers, and the stage does nothing afterwards.

An origin that is not allowed leaves no trace. That is a statement about two requests, and about a
whole chain: if no policy of the chain allows either of two origins, and neither the handler nor a
custom stage goes by the origin, serving the two requests is the same (`Chain.serve_overlooks`). No
stage reads the header for anything else.
-/

namespace HttpPipeline

/-! ### Allowed origins and preflights -/

/-- **A policy allows the origin of a request**: the first value of the header is not empty, and it
matches. A value that cannot be read as text is matched as an empty one. -/
def CorsPolicy.Allows (policy : CorsPolicy) (headers : Headers) : Prop :=
  ∃ origin, headers.nonempty? "origin" = some origin ∧
    policy.matcher.check ((visibleText? origin).getD "") ≠ .denied

/-- **A preflight** asks what will be allowed, and names a method that it asks for. -/
def Request.IsPreflight (request : Request) : Prop :=
  request.method = "OPTIONS" ∧
    ∃ asked, request.headers.nonempty? "access-control-request-method" = some asked

namespace CorsPolicy

variable {policy : CorsPolicy} {request : Request}

theorem allowedOrigin?_isSome {headers : Headers} :
    (policy.allowedOrigin? headers).isSome = true ↔ policy.Allows headers := by
  rw [allowedOrigin?, Allows]
  cases headers.nonempty? "origin" with
  | none => simp
  | some origin =>
    simp only [Option.bind_some, Option.some.injEq, exists_eq_left']
    cases policy.matcher.check ((visibleText? origin).getD "") <;> simp

theorem allowedOrigin?_eq_none {headers : Headers} :
    policy.allowedOrigin? headers = none ↔ ¬policy.Allows headers := by
  rw [← allowedOrigin?_isSome, Bool.not_eq_true, Option.isSome_eq_false_iff,
    Option.isNone_iff_eq_none]

theorem isPreflight_iff :
    isPreflight request.method request.headers = true ↔ request.IsPreflight := by
  rw [isPreflight, Bool.and_eq_true, beq_iff_eq, Option.isSome_iff_exists, Request.IsPreflight]

end CorsPolicy

/-! ### Requests that differ in their origin -/

/-- Two requests that agree in everything but the values of the origin. -/
structure Request.DifferInOrigin (request other : Request) : Prop where
  others : request.headers.remove "origin" = other.headers.remove "origin"
  rest : other = { request with headers := other.headers }

namespace Request.DifferInOrigin

variable {request other : Request} (h : request.DifferInOrigin other)

include h

theorem values {name : String} (hname : name ≠ "origin") :
    request.headers.values name = other.headers.values name := by
  rw [← request.headers.values_remove_of_ne hname, h.others,
    other.headers.values_remove_of_ne hname]

theorem nonempty? {name : String} (hname : name ≠ "origin") :
    request.headers.nonempty? name = other.headers.nonempty? name := by
  rw [Headers.nonempty?, Headers.get?, h.values hname, Headers.nonempty?, Headers.get?]

theorem requestAcceptsGzip :
    AcceptEncoding.requestAcceptsGzip request.headers
      = AcceptEncoding.requestAcceptsGzip other.headers := by
  rw [AcceptEncoding.requestAcceptsGzip, h.values (by decide), AcceptEncoding.requestAcceptsGzip]

theorem chooseId (generator : Generator) (world : World) :
    HttpPipeline.chooseId generator request.headers world
      = HttpPipeline.chooseId generator other.headers world := by
  have hinbound : inboundId? request.headers = inboundId? other.headers := by
    rw [inboundId?, Headers.text?, Headers.get?, h.values (by decide), inboundId?, Headers.text?,
      Headers.get?]
  rw [HttpPipeline.chooseId, hinbound, HttpPipeline.chooseId]

/-- An identifier is assigned to both. -/
theorem identified (id : Option String) :
    ({ request with id } : Request).DifferInOrigin { other with id } where
  others := h.others
  rest := by
    conv_lhs => rw [h.rest]

end Request.DifferInOrigin

/-- **Overlooking the origin**: a handler that goes by anything but the origin. -/
def Handler.OverlooksOrigin {τ σ : Type} (handler : Handler τ σ) : Prop :=
  ∀ ⦃request other : Request⦄, request.DifferInOrigin other →
    ∀ s w world, handler request s w world = handler other s w world

/-- A stage that has nothing to do with the origins of two requests. -/
def Stage.Overlooks {τ : Type} (σ : Type) [MemberStream τ] [Sink σ] (request other : Request) :
    Stage τ → Prop
  | .cors policy => ¬policy.Allows request.headers ∧ ¬policy.Allows other.headers
  | .custom stage =>
    Handler.OverlooksOrigin (τ := τ) (σ := σ) stage.before.handler ∧
      Handler.OverlooksOrigin (τ := τ) (σ := σ) stage.after.handler
  | _ => True

/-- The identifiers of the requests do not matter for that. -/
theorem Stage.Overlooks.identified {τ σ : Type} [MemberStream τ] [Sink σ] {request other : Request}
    {stage : Stage τ} (h : stage.Overlooks σ request other) (id : Option String) :
    stage.Overlooks σ { request with id } { other with id } := by
  cases stage <;> exact h

namespace Chain

variable {τ σ : Type} [MemberStream τ] [Sink σ]

/-- **Origins that are not allowed** make no difference to what comes of a request, nor to the
chain afterwards. -/
theorem serve_overlooks {handler : Handler τ σ} (hhandler : handler.OverlooksOrigin)
    {stages : List (Stage τ)} {request other : Request} (h : request.DifferInOrigin other)
    (hstages : ∀ stage ∈ stages, stage.Overlooks σ request other) (s : Stack) (w : s.Writer τ σ)
    (world : World) :
    serve stages handler request s w world = serve stages handler other s w world := by
  -- on the stages, for all pairs of requests that differ in their origin: a stage may hand on
  -- another
  induction stages generalizing s request other world with
  | nil => exact congrArg (·, []) (hhandler h s w world)
  | cons stage inner ih =>
    have hstage := hstages stage List.mem_cons_self
    have hinner : ∀ stage ∈ inner, stage.Overlooks σ request other :=
      fun x hx => hstages x (List.mem_cons_of_mem _ hx)
    cases stage with
    | recovery =>
      have hleave : Recovery.leave (ω := s.Writer τ σ) request = Recovery.leave other := by
        rw [h.rest]
        rfl
      have hrun := ih h hinner (.commit s) ({ inner := w } : CommitLayer (s.Writer τ σ))
        (Recovery.enter world)
      refine (congrArg (fun run =>
        (Recovery.leave request run.1, .recovery :: run.2)) hrun).trans ?_
      rw [hleave]
      rfl
    | requestId generator =>
      have hchosen := h.chooseId generator world
      simp only [serve, hchosen,
        ih (h.identified _) fun stage hstage => (hinner stage hstage).identified _]
    | logging =>
      have hleave : AccessLog.leave (ω := s.Writer τ σ) request = AccessLog.leave other := by
        rw [h.rest]
        rfl
      have hrun := ih h hinner (.status s) ({ inner := w } : StatusLayer (s.Writer τ σ)) world
      refine (congrArg (fun run =>
        (AccessLog.leave request world.now run.1, .logging :: run.2)) hrun).trans ?_
      rw [hleave]
      rfl
    | cors policy =>
      -- neither origin is allowed, so both requests pass without an edit
      obtain ⟨hdenied, hdenied'⟩ := hstage
      simp only [serve, CorsPolicy.allowedOrigin?_eq_none.mpr hdenied,
        CorsPolicy.allowedOrigin?_eq_none.mpr hdenied', ih h hinner]
    | rateLimit bucket => simp only [serve, ih h hinner]
    | compression minSize pool =>
      have hgzip := ih h hinner (.gzip s)
        (GzipLayer.around (Compression.announce w) pool.acquire.1 minSize) world
      simp only [serve, h.requestAcceptsGzip, ih h hinner s]
      split_ifs
      · exact congrArg (fun run => ((Compression.leave pool.acquire.2 run.1).1,
          .compression minSize (Compression.leave pool.acquire.2 run.1).2 :: run.2)) hgzip
      · rfl
    | custom stage =>
      obtain ⟨hbefore, hafter⟩ := hstage
      -- each of the stage's two scripts does the same for both requests
      have hsilently {script : Script} {request other : Request} (h : request.DifferInOrigin other)
          (hscript : Handler.OverlooksOrigin (τ := τ) (σ := σ) script.handler)
          (w : s.Writer τ σ) (world : World) :
          silently script request s w world = silently script other s w world :=
        congrArg (fun run : Run (s.Writer τ σ) => { run with replies := [] }) (hscript h s w world)
      have hid : request.id = other.id := by rw [h.rest]
      simp only [serve, hsilently h hbefore, hid]
      cases (silently stage.before other s w world).ending with
      | panicked payload => rfl
      | returned =>
        have hassigned := h.identified (stage.assigns <|> other.id)
        have hafter' (w : s.Writer τ σ) (world : World) := hsilently hassigned hafter w world
        simp only [ih hassigned fun stage hstage => (hinner stage hstage).identified _,
          funext fun w => funext (hafter' w)]

/-- **A preflight** from an allowed origin is answered with the status `204`, and with nothing
else. -/
theorem serve_preflight {policy : CorsPolicy} (request : Request)
    (hallows : policy.Allows request.headers) (hpreflight : request.IsPreflight)
    (inner : List (Stage τ)) (s : Stack) (w : s.Writer τ σ) (world : World) :
    ∃ reply,
      (∀ handler, serve (.cors policy :: inner) handler request s w world
        = (.returned [] reply world, .cors policy :: inner)) ∧
      ∀ R : Ledger → s.Writer τ σ → Prop, Sink.Keeps R → R {} w →
        R { status := some 204 } reply := by
  obtain ⟨origin, horigin⟩ := Option.isSome_iff_exists.mp
    (CorsPolicy.allowedOrigin?_isSome.mpr hallows)
  let varied := Sink.editHeaders w fun h => CorsPolicy.vary h "Origin"
  refine ⟨answerPreflight policy (Sink.editHeaders varied (policy.grant origin)),
    fun handler => ?_, fun R hR h => ?_⟩
  · simp only [serve, horigin, CorsPolicy.isPreflight_iff.mpr hpreflight, if_true]
    rfl
  · have hvaried : R {} varied := hR.editHeaders h _
    exact hR.sendFinal (hR.editHeaders (hR.editHeaders hvaried _) policy.announce) (by decide)

/-- **Any other request** is handed on as it is, with other headers of the response. -/
theorem serve_handed {policy : CorsPolicy} {request : Request}
    (hnot : ¬(policy.Allows request.headers ∧ request.IsPreflight)) (inner : List (Stage τ))
    (handler : Handler τ σ) (s : Stack) (w : s.Writer τ σ) (world : World) :
    serve (.cors policy :: inner) handler request s w world
      = let handed := Sink.editAll w ((Stage.cors policy : Stage τ).edits request world)
        ((serve inner handler request s handed world).1,
          .cors policy :: (serve inner handler request s handed world).2) := by
  cases horigin : policy.allowedOrigin? request.headers with
  | none =>
    simp only [serve, Stage.edits, horigin]
    rfl
  | some origin =>
    have hpreflight : CorsPolicy.isPreflight request.method request.headers = false := by
      have hallows : policy.Allows request.headers :=
        CorsPolicy.allowedOrigin?_isSome.mp (by rw [horigin]; rfl)
      exact Bool.eq_false_iff.mpr fun hpreflight =>
        hnot ⟨hallows, CorsPolicy.isPreflight_iff.mp hpreflight⟩
    simp only [serve, Stage.edits, horigin, hpreflight, Bool.false_eq_true, if_false]
    rfl

/-- **What the stage for other origins does**, in front of any stages and any handler.

* A preflight from an allowed origin it answers itself. The answer has the status `204` and an
  empty body, which is also what the client receives, and it is the same for all handlers. The
  stages further in are as they were, and so is the world: none of them was asked.
* Any other request is served by the stages further in and the handler, just once, as it is. The
  response that they are handed has other headers; if the origin is not allowed, the only change is
  that `Vary` has one more value. What comes of this is what comes of the whole.
* So two origins that are not allowed make no difference, if nothing further in goes by the
  origin. -/
theorem serve_crossing (policy : CorsPolicy) (inner : List (Stage τ)) (request : Request)
    (world : World) :
    (policy.Allows request.headers ∧ request.IsPreflight →
      (∀ (s : Stack) (w : s.Writer τ σ), ∃ reply,
        (∀ handler, serve (.cors policy :: inner) handler request s w world
          = (.returned [] reply world, .cors policy :: inner)) ∧
        ∀ R : Ledger → s.Writer τ σ → Prop, Sink.Keeps R → R {} w →
          R { status := some 204 } reply) ∧
      ∀ frames body, Service.collect frames = .ok body → ∀ handler polls,
        ∃ d : Delivery,
          (Service.call (.cors policy :: inner) handler request frames world polls).delivery
            = .ok d ∧
          d.complete = true ∧ d.head.status = 204 ∧ d.body = []) ∧
    (¬(policy.Allows request.headers ∧ request.IsPreflight) →
      ∀ (s : Stack) (w : s.Writer τ σ), ∃ handed,
        (∀ handler, serve (.cors policy :: inner) handler request s w world
          = ((serve inner handler request s handed world).1,
            .cors policy :: (serve inner handler request s handed world).2)) ∧
        (¬policy.Allows request.headers →
          handed = Sink.setHeaders w
            ((Sink.headers w).append "vary" (Bytes.ofString "Origin")))) ∧
    (∀ other, request.DifferInOrigin other → ¬policy.Allows request.headers →
      ¬policy.Allows other.headers → (∀ stage ∈ inner, stage.Overlooks σ request other) →
      ∀ handler : Handler τ σ, handler.OverlooksOrigin → ∀ s w,
        serve (.cors policy :: inner) handler request s w world
          = serve (.cors policy :: inner) handler other s w world) := by
  refine ⟨fun ⟨hallows, hpreflight⟩ => ⟨fun s w => ?_, fun frames body hbody handler polls => ?_⟩,
    fun hnot s w =>
      ⟨_, fun handler => serve_handed hnot inner handler s w world, fun hdenied => ?_⟩,
    fun other h hdenied hdenied' hinner handler hhandler s w => ?_⟩
  · exact serve_preflight request hallows hpreflight inner s w world
  · obtain ⟨reply, hserve, hreply⟩ := serve_preflight { request with body } hallows hpreflight inner
      .bottom ({ polls } : Polled) world
    have hrun := congrArg Prod.fst (hserve handler)
    obtain ⟨d, hdelivery, -, hcomplete, hstatus, hwritten, -⟩ := Service.finished_delivers
      (.cors policy :: inner) handler request hbody world polls hrun rfl
      (hreply Polled.Account Polled.keeps (Polled.account_start polls))
    exact ⟨d, hdelivery, hcomplete, hstatus, hwritten⟩
  · simp only [Stage.edits, CorsPolicy.allowedOrigin?_eq_none.mpr hdenied]
    rfl
  · refine serve_overlooks hhandler h (fun stage hstage => ?_) s w world
    rcases List.mem_cons.mp hstage with rfl | hstage
    · exact ⟨hdenied, hdenied'⟩
    · exact hinner stage hstage

/-- One host is listed. A preflight from there takes nothing out of an empty bucket; two requests
from elsewhere come to the same. -/
theorem serve_crossing_listed :
    let policy := (CorsPolicy.ofSettings { allowedOrigins := ["app.example"] } []).1
    let bucket : Bucket Binary64 := { (({} : RateSettings).bucket 0).1 with tokens := .ofNat 0 }
    let inner : List (Stage Stored) := [.rateLimit bucket, .compression 4 (.ofSettings 6 1)]
    let script : Script := [.call (.status 201), .echo .path]
    let preflight : Request :=
      { method := "OPTIONS"
        headers := ⟨[("origin", Bytes.ofString "https://app.example"),
          ("access-control-request-method", Bytes.ofString "PUT")]⟩ }
    let elsewhere (origin : String) : Request :=
      { headers := ⟨[("origin", Bytes.ofString origin), ("accept", Bytes.ofString "*/*")]⟩ }
    (∃ d : Delivery,
      (Service.call (.cors policy :: inner) script.handler preflight [] {} []).delivery = .ok d ∧
      d.complete = true ∧ d.head.status = 204 ∧ d.body = []) ∧
    (∃ handed : Recorder,
      serve (.cors policy :: inner) script.handler (elsewhere "null") .bottom ({} : Recorder) {}
        = ((serve inner script.handler (elsewhere "null") .bottom handed {}).1,
          .cors policy :: (serve inner script.handler (elsewhere "null") .bottom handed {}).2) ∧
      handed = { headers := Headers.empty.append "vary" (Bytes.ofString "Origin") }) ∧
    serve (.cors policy :: inner) script.handler (elsewhere "https://evil.example") .bottom
        ({} : Recorder) {}
      = serve (.cors policy :: inner) script.handler (elsewhere "null") .bottom
        ({} : Recorder) {} := by
  intro policy bucket inner script preflight elsewhere
  have hallows : policy.Allows preflight.headers :=
    CorsPolicy.allowedOrigin?_isSome.mp (by decide +kernel)
  have hpreflight : preflight.IsPreflight := CorsPolicy.isPreflight_iff.mp (by decide +kernel)
  have hevil : ¬policy.Allows (elsewhere "https://evil.example").headers :=
    CorsPolicy.allowedOrigin?_eq_none.mp (by decide +kernel)
  have hnull : ¬policy.Allows (elsewhere "null").headers :=
    CorsPolicy.allowedOrigin?_eq_none.mp (by decide +kernel)
  have hscript : Handler.OverlooksOrigin (τ := Stored) (σ := Recorder) script.handler := by
    intro request other h s w world
    rw [h.rest]
    rfl
  refine ⟨?_, ?_, ?_⟩
  -- the three parts of the general theorem, each at its own request
  · exact ((serve_crossing (σ := Polled) policy inner preflight {}).1 ⟨hallows, hpreflight⟩).2 [] []
      rfl script.handler []
  · obtain ⟨handed, hserve, hhanded⟩ := (serve_crossing policy inner (elsewhere "null") {}).2.1
      (fun h => hnull h.1) .bottom ({} : Recorder)
    exact ⟨handed, hserve script.handler, hhanded hnull⟩
  · refine (serve_crossing policy inner (elsewhere "https://evil.example") {}).2.2
      (elsewhere "null") ⟨rfl, rfl⟩ hevil hnull (fun stage hstage => ?_) script.handler hscript
      .bottom {}
    rcases List.mem_cons.mp hstage with rfl | hstage
    · trivial
    · rw [List.mem_singleton.mp hstage]
      trivial

end Chain

end HttpPipeline
