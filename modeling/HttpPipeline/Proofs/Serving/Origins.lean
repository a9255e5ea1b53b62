import HttpPipeline.Serving.Chain
import HttpPipeline.Proofs.Gzip.Stored
import HttpPipeline.Proofs.Origin.Policy
import HttpPipeline.Proofs.Response.Spared

/-!
# What a chain says to other origins

The stage of a policy edits the headers of the response and hands it on. What the client sees of
its headers is decided then, if nobody further in touches the headers about other origins
(`Handler.Spares`): whenever the head is sent, and by whichever layer, it carries the values that
the stage has set.

So there are three responses to look at, as the stage hands them on or as it sends them itself: one
that says nothing, one to an allowed origin, and the answer to a preflight. All three are guarded
(`CorsPolicy.Guards`).
-/

namespace HttpPipeline

/-! ### Handlers that spare headers -/

namespace Handler

variable {τ σ : Type} [MemberStream τ] [Sink σ]

/-- **A handler that spares some headers**: of what arrives at the bottom of the tower it was
given, nothing changes their values. -/
def Spares (names : String → Bool) (handler : Handler τ σ) : Prop :=
  ∀ (request : Request) (s : Stack) (w : s.Writer τ σ) (world : World),
    Sink.Reached (.sparing names) (s.base w) (s.base (handler request s w world).writer)

/-- The handler that makes some calls. -/
def ofCalls (calls : List Call) : Handler τ σ := fun _ _ w world =>
  .returned (Call.performAll calls w).1 (Call.performAll calls w).2 world

end Handler

/-- Compression declares another body, and edits no other headers. -/
theorem GzipLayer.mayCompress_sparing {names : String → Bool}
    (hnames : ∀ name ∈ ["content-type", "content-encoding", "content-length"],
      names name = false) : GzipLayer.MayCompress (.sparing names) := by
  intro headers buffer other hother
  refine GzipLayer.compressedHeaders_other headers buffer fun hmem => ?_
  rw [hnames other hmem] at hother
  exact Bool.false_ne_true hother

/-- **Calls that spare the headers** make a handler that does, through whatever layers. -/
theorem Handler.spares_ofCalls {τ σ : Type} [MemberStream τ] [Sink σ] {names : String → Bool}
    (hnames : GzipLayer.MayCompress (.sparing names)) {calls : List Call}
    (hcalls : ∀ call ∈ calls, call.spares names = true) :
    (Handler.ofCalls calls : Handler τ σ).Spares names := fun _ s w _ =>
  (s.outlasts hnames (Sink.outlasts_reached _ (s.base w))).performAll .refl hcalls

/-! ### The stage of a policy -/

namespace Chain

variable {τ σ : Type} [MemberStream τ] [Sink σ] {sent : σ → Option Head}

theorem mayCompress_cors : GzipLayer.MayCompress (.sparing CorsPolicy.isCorsName) :=
  GzipLayer.mayCompress_sparing (by decide)

/-- **What the stage hands on**, or sends itself: a response that says as much of other origins as
before, or one that allows an origin. After that nobody touches what it says. -/
theorem serve_cors_hands (hsent : Sink.SendsHead sent) (policy : CorsPolicy)
    (inner : List (Stage τ)) (handler : Handler τ σ)
    (hspares : Handler.Spares CorsPolicy.isCorsName fun request s w world =>
      (serve inner handler request s w world).1)
    (request : Request) (s : Stack) (w : s.Writer τ σ) (world : World) :
    ∃ handed : σ, sent handed = sent (s.base w) ∧
      Sink.Reached (.sparing CorsPolicy.isCorsName) handed
        (s.base (serve (.cors policy :: inner) handler request s w world).1.writer) ∧
      ((policy.allowedOrigin? request.headers = none ∧
          ∀ name, CorsPolicy.isCorsName name = true →
            (Sink.headers handed).values name = (Sink.headers w).values name) ∨
        ∃ allowed, policy.allowedOrigin? request.headers = some allowed ∧
          (Sink.headers handed).values "access-control-allow-origin" = [allowed] ∧
          ((Sink.headers w).values "access-control-allow-credentials" = [] →
            (Sink.headers handed).values "access-control-allow-credentials"
              = if policy.matcher.credentials then [Bytes.ofString "true"] else [])) := by
  -- the response with the note that it depends on the origin
  set varied := Sink.editHeaders w fun h => CorsPolicy.vary h "Origin" with hvaried
  have hsame {name : String} (hname : CorsPolicy.isCorsName name = true) :
      (Sink.headers (s.base varied)).values name = (Sink.headers w).values name := by
    rw [hvaried, s.base_editHeaders, hsent.headers_edit, CorsPolicy.values_vary hname,
      s.headers_base w]
  have hunsent : sent (s.base varied) = sent (s.base w) := by
    rw [hvaried, s.base_editHeaders, hsent.sent_edit]
  cases hallowed : policy.allowedOrigin? request.headers with
  | none =>
    have hrun : (serve (.cors policy :: inner) handler request s w world).1
        = (serve inner handler request s varied world).1 := by
      simp only [serve, hallowed, hvaried]
    refine ⟨s.base varied, hunsent, ?_, .inl ⟨rfl, fun name => hsame⟩⟩
    rw [hrun]
    exact hspares request s varied world
  | some allowed =>
    set granted := Sink.editHeaders varied (policy.grant allowed) with hgranted
    have hheaders : Sink.headers (s.base granted)
        = policy.grant allowed (Sink.headers (s.base varied)) := by
      rw [hgranted, s.base_editHeaders, hsent.headers_edit]
    have hgrants : (Sink.headers (s.base granted)).values "access-control-allow-origin"
          = [allowed] ∧
        ((Sink.headers w).values "access-control-allow-credentials" = [] →
          (Sink.headers (s.base granted)).values "access-control-allow-credentials"
            = if policy.matcher.credentials then [Bytes.ofString "true"] else []) := by
      rw [hheaders]
      refine ⟨policy.values_grant_origin allowed _, fun hnone => ?_⟩
      exact policy.values_grant_credentials allowed ((hsame (by decide)).trans hnone)
    have hstill : sent (s.base granted) = sent (s.base w) := by
      rw [hgranted, s.base_editHeaders, hsent.sent_edit, hunsent]
    by_cases hpreflight : CorsPolicy.isPreflight request.method request.headers = true
    · -- the answer is sent with its headers
      set announced := Sink.editHeaders granted policy.announce with hannounced
      have hrun : (serve (.cors policy :: inner) handler request s w world).1.writer
          = Sink.sendStatus announced 204 := by
        simp only [serve, hallowed, hpreflight, if_true]
        rfl
      have hannounces {name : String} (hname : CorsPolicy.isCorsName name = true)
          (hothers : name ≠ "access-control-allow-methods" ∧
            name ≠ "access-control-allow-headers" ∧ name ≠ "access-control-max-age") :
          (Sink.headers (s.base announced)).values name
            = (Sink.headers (s.base granted)).values name := by
        rw [hannounced, s.base_editHeaders, hsent.headers_edit,
          policy.values_announce _ hname hothers.1 hothers.2.1 hothers.2.2]
      refine ⟨s.base announced, ?_, ?_, .inr ⟨allowed, rfl, ?_, fun hnone => ?_⟩⟩
      · rw [hannounced, s.base_editHeaders, hsent.sent_edit, hstill]
      · rw [hrun]
        exact (s.outlasts mayCompress_cors
          (Sink.outlasts_reached _ (s.base announced))).sendStatus .refl 204
      · rw [hannounces (by decide) (by decide)]
        exact hgrants.1
      · rw [hannounces (by decide) (by decide)]
        exact hgrants.2 hnone
    · have hrun : (serve (.cors policy :: inner) handler request s w world).1
          = (serve inner handler request s granted world).1 := by
        simp only [serve, hallowed, if_neg hpreflight]
        rfl
      refine ⟨s.base granted, hstill, ?_, .inr ⟨allowed, rfl, hgrants⟩⟩
      rw [hrun]
      exact hspares request s granted world

/-- **What a chain says to other origins.** -/
theorem serve_guards (hsent : Sink.SendsHead sent) (settings : CorsSettings)
    (checks : List OriginCheck) (inner : List (Stage τ)) (handler : Handler τ σ)
    (hspares : Handler.Spares CorsPolicy.isCorsName fun request s w world =>
      (serve inner handler request s w world).1)
    (request : Request) (s : Stack) (w : s.Writer τ σ) (world : World)
    (hunsent : sent (s.base w) = none)
    (hsilent : ∀ name, CorsPolicy.isCorsName name = true → (Sink.headers w).values name = []) :
    let policy := CorsPolicy.ofSettings settings checks
    let run := (serve (.cors policy.1 :: inner) handler request s w world).1
    (∀ later, Sink.Reached (.sparing CorsPolicy.isCorsName) (s.base run.writer) later →
      CorsPolicy.Guards settings checks request.headers (Sink.carried sent later)) ∧
    (∀ origin, CorsPolicy.hostOf origin = [] →
      policy.1.matcher.check ((visibleText? origin).getD "") ≠ .exact) ∧
    (∀ origin, visibleText? origin = none → CorsPolicy.hostOf origin = []) ∧
    (∀ origin, Url.host? ((visibleText? origin).getD "").toList = none →
      CorsPolicy.hostOf origin = []) ∧
    CorsPolicy.hostOf (Bytes.ofString "null") = [] ∧
    (settings.allowCredentials = true ∧ settings.OnlyWildcard checks →
      policy.1.matcher.credentials = false ∧
        Event.warnings policy.2 = [.credentialsDropped]) ∧
    (¬(settings.allowCredentials = true ∧ settings.OnlyWildcard checks) →
      policy.1.matcher.credentials = settings.allowCredentials ∧
        Event.warnings policy.2 = []) := by
  intro policy run
  refine ⟨?_, fun origin => OriginMatcher.check_nameless checks settings,
    fun origin => CorsPolicy.hostOf_invisible, fun origin hhost => ?_, by decide,
    CorsPolicy.credentials_ofSettings settings checks⟩
  · intro later hlater
    obtain ⟨handed, hstill, hreached, hsays⟩ :=
      serve_cors_hands hsent policy.1 inner handler hspares request s w world
    -- the client sees what was handed on
    have hcarried {name : String} (hname : CorsPolicy.isCorsName name = true) :
        (Sink.carried sent later).values name = (Sink.headers handed).values name :=
      hsent.carried_values (hstill.trans hunsent) (hreached.trans hlater) hname
    rcases hsays with ⟨-, hsame⟩ | ⟨allowed, hallowed, horigin, hcredentials⟩
    · refine CorsPolicy.guards_of_silent fun name hname => ?_
      rw [hcarried hname, hsame name hname, hsilent name hname]
    · refine CorsPolicy.guards_of_allowed hallowed ?_ ?_
      · rw [hcarried (by decide), horigin]
      · rw [hcarried (by decide), hcredentials (hsilent _ (by decide))]
  · rw [CorsPolicy.hostOf, Url.hostname, Url.hostnameBy, hhost]

/-- With credentials, an origin that is listed beside the wildcard. -/
theorem serve_guards_listed :
    let settings : CorsSettings :=
      { allowedOrigins := ["https://a.test", "Example.com", "*"], allowCredentials := true }
    let policy := CorsPolicy.ofSettings settings [.noScheme, .notEmpty]
    let handler : Handler Stored Recorder := .ofCalls [.status 404, .write [1, 2]]
    let request : Request :=
      { headers := Headers.empty.insert "origin" (Bytes.ofString "https://example.com:8443") }
    let run := (serve [.cors policy.1] handler request (.status .bottom) { inner := {} } {}).1
    let head := Sink.carried Recorder.sent (Stack.base (.status .bottom) run.writer)
    CorsPolicy.Guards settings [.noScheme, .notEmpty] request.headers head ∧
      head.values "access-control-allow-origin" = [Bytes.ofString "https://example.com:8443"] ∧
      head.values "access-control-allow-credentials" = [Bytes.ofString "true"] := by
  intro settings policy handler request run head
  refine ⟨?_, by decide +kernel, by decide +kernel⟩
  refine (serve_guards Recorder.sendsHead settings [.noScheme, .notEmpty] [] handler ?_ request
    (.status .bottom) { inner := {} } {} rfl fun name _ => rfl).1 _ .refl
  exact Handler.spares_ofCalls mayCompress_cors (by decide)

end Chain

end HttpPipeline
