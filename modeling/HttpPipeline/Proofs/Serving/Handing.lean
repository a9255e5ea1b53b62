import HttpPipeline.Proofs.Serving.Passage

/-!
# What a stage hands on

A stage that does not answer a request hands it on. It may have edited the headers of the response
(`Stage.edits`), completed the request (`Stage.completes`) and spent some time (`Stage.onward`),
and it may have put a layer in front of the response (`Stage.layers`). Without a layer it has
nothing to do afterwards, so serving and what the handler is given are those of the stages further
in (`Chain.serve_onward`, `Chain.entry_onward`). With one they go through the layer.
-/

namespace HttpPipeline

/-- Several edits of headers, one after the other. -/
def Sink.editAll {ω : Type} [Sink ω] (w : ω) (edits : List (Headers → Headers)) : ω :=
  edits.foldl Sink.editHeaders w

namespace Stage

variable {τ : Type}

/-- Whether a stage puts a compression layer in front of the response, given the headers of the
request. -/
def compresses (headers : Headers) : Stage τ → Bool
  | .compression .. => AcceptEncoding.requestAcceptsGzip headers
  | _ => false

/-- Whether a stage puts a layer in front of the response. -/
def layers (headers : Headers) : Stage τ → Bool
  | .recovery => true
  | .logging => true
  | .compression .. => AcceptEncoding.requestAcceptsGzip headers
  | _ => false

/-- The edits that a stage makes of the headers of a response before it hands it on. -/
def edits (request : Request) (world : World) : Stage τ → List (Headers → Headers)
  | .requestId generator =>
    [fun h => h.insert idHeader (Bytes.ofString (chooseId generator request.headers world).1)]
  | .cors policy =>
    (fun h => CorsPolicy.vary h "Origin") ::
      ((policy.allowedOrigin? request.headers).map policy.grant).toList
  | .compression .. => [fun h => h.append "vary" (Bytes.ofString "Accept-Encoding")]
  | _ => []

/-- The request as a stage hands it on. -/
def completes (request : Request) (world : World) : Stage τ → Request
  | .requestId generator =>
    { request with id := some (chooseId generator request.headers world).1 }
  | _ => request

/-- The world as a stage hands it on. -/
def onward (request : Request) (world : World) : Stage τ → World
  | .requestId generator => (chooseId generator request.headers world).2.2
  | _ => world

/-- The headers of a request are nobody's to complete. -/
theorem completes_headers (request : Request) (world : World) (stage : Stage τ) :
    (stage.completes request world).headers = request.headers := by
  cases stage <;> rfl

/-- Whether a stage answers depends on what is not completed. -/
theorem answers_completes (request : Request) (world : World) (now : Int)
    (stage further : Stage τ) :
    further.answers (stage.completes request world) now = further.answers request now := by
  cases stage <;> rfl

/-- No time passes on the clock that is never set. -/
theorem onward_now (request : Request) (world : World) (stage : Stage τ) :
    (stage.onward request world).now = world.now := by
  cases stage with
  | requestId generator => exact (chooseId_world generator request.headers world).1
  | _ => rfl

/-- So no stage further in answers that would not have answered before. -/
theorem answers_onward {stages : List (Stage τ)} {request : Request} {world : World}
    (h : ∀ further ∈ stages, further.answers request world.now = false) (stage : Stage τ) :
    ∀ further ∈ stages,
      further.answers (stage.completes request world) (stage.onward request world).now = false := by
  intro further hfurther
  rw [answers_completes, onward_now]
  exact h further hfurther

end Stage

namespace Chain

variable {τ σ : Type} [MemberStream τ] [Sink σ] {stage : Stage τ} {request : Request}
    {world : World}

/-- **What the handler is given** behind a stage that puts no layer in front of the response. -/
theorem entry_onward (hsound : stage.Sound) (hanswer : stage.answers request world.now = false)
    (hlayers : stage.layers request.headers = false) (inner : List (Stage τ)) (s : Stack)
    (w : s.Writer τ σ) :
    entry (stage :: inner) request s w world
      = entry inner (stage.completes request world) s
        (Sink.editAll w (stage.edits request world)) (stage.onward request world) := by
  cases stage with
  | recovery => exact absurd hlayers.symm Bool.false_ne_true
  | logging => exact absurd hlayers.symm Bool.false_ne_true
  | requestId generator => rfl
  | cors policy =>
    cases horigin : policy.allowedOrigin? request.headers with
    | none => simp only [entry, Stage.edits, horigin]; rfl
    | some origin =>
      have hpreflight : CorsPolicy.isPreflight request.method request.headers = false := by
        simpa only [Stage.answers, horigin, Option.isSome_some, Bool.true_and] using hanswer
      simp only [entry, Stage.edits, horigin, hpreflight, Bool.false_eq_true, if_false]
      rfl
  | rateLimit bucket =>
    rcases hacquire : bucket.acquireAt world.now with ⟨admission, bucket'⟩
    -- a bucket that rejects would answer the request itself
    have hadmitted : admission = .admitted := by
      simpa [Stage.answers, hacquire] using hanswer
    subst hadmitted
    simp only [entry, hacquire]
    rfl
  | compression minSize pool =>
    have hrefuses : ¬ AcceptEncoding.requestAcceptsGzip request.headers = true := by
      simpa [Stage.layers] using hlayers
    simp only [entry, if_neg hrefuses]
    rfl
  | custom stage => exact absurd hsound id

/-- **Serving** behind a stage that would compress the response if the client accepted that. -/
theorem serve_announcing {minSize : Nat} {pool : EncoderPool τ}
    (hrefuses : ¬ AcceptEncoding.requestAcceptsGzip request.headers = true)
    (inner : List (Stage τ)) (handler : Handler τ σ) (s : Stack) (w : s.Writer τ σ) :
    (serve (.compression minSize pool :: inner) handler request s w world).1
      = (serve inner handler request s (Compression.announce w) world).1 := by
  simp only [serve, if_neg hrefuses]

/-- **Serving** behind a stage that puts no layer in front of the response. -/
theorem serve_onward (hsound : stage.Sound) (hanswer : stage.answers request world.now = false)
    (hlayers : stage.layers request.headers = false) (inner : List (Stage τ))
    (handler : Handler τ σ) (s : Stack) (w : s.Writer τ σ) :
    (serve (stage :: inner) handler request s w world).1
      = (serve inner handler (stage.completes request world) s
        (Sink.editAll w (stage.edits request world)) (stage.onward request world)).1 := by
  cases stage with
  | recovery => exact absurd hlayers.symm Bool.false_ne_true
  | logging => exact absurd hlayers.symm Bool.false_ne_true
  | requestId generator =>
    rw [serve_requestId]
    rfl
  | cors policy =>
    cases horigin : policy.allowedOrigin? request.headers with
    | none => simp only [serve, Stage.edits, horigin]; rfl
    | some origin =>
      -- an allowed preflight would have been answered here
      have hpreflight : CorsPolicy.isPreflight request.method request.headers = false := by
        simpa only [Stage.answers, horigin, Option.isSome_some, Bool.true_and] using hanswer
      simp only [serve, Stage.edits, horigin, hpreflight, Bool.false_eq_true, if_false]
      rfl
  | rateLimit bucket =>
    rcases hacquire : bucket.acquireAt world.now with ⟨admission, bucket'⟩
    have hadmitted : admission = .admitted := by
      simpa [Stage.answers, hacquire] using hanswer
    subst hadmitted
    simp only [serve, hacquire]
    rfl
  | compression minSize pool =>
    exact serve_announcing (by simpa [Stage.layers] using hlayers) inner handler s w
  | custom stage => exact absurd hsound id

/-- **Serving** behind a stage that compresses the response. -/
theorem serve_compressing {minSize : Nat} {pool : EncoderPool τ}
    (haccepts : AcceptEncoding.requestAcceptsGzip request.headers = true)
    (inner : List (Stage τ)) (handler : Handler τ σ) (s : Stack) (w : s.Writer τ σ) :
    (serve (.compression minSize pool :: inner) handler request s w world).1
      = (Compression.leave pool.acquire.2 (serve inner handler request (.gzip s)
        (GzipLayer.around (Compression.announce w) pool.acquire.1 minSize) world).1).1 := by
  simp only [serve, if_pos haccepts]

/-- **What the handler is given** behind such a stage. -/
theorem entry_compressing {minSize : Nat} {pool : EncoderPool τ}
    (haccepts : AcceptEncoding.requestAcceptsGzip request.headers = true)
    (inner : List (Stage τ)) (s : Stack) (w : s.Writer τ σ) :
    entry (.compression minSize pool :: inner) request s w world
      = (entry inner request (.gzip s)
        (GzipLayer.around (Compression.announce w) pool.acquire.1 minSize) world).map
          fun e => e.through GzipLayer.inner := by
  simp only [entry, if_pos haccepts]

/-- **Induction over a chain** of which no stage answers: a stage hands on what it has edited and
completed, or it puts one of the three layers in front of the response. -/
theorem onward_induction
    {motive : List (Stage τ) → Request → (s : Stack) → s.Writer τ σ → World → Prop}
    (nil : ∀ request s w world, motive [] request s w world)
    (pass : ∀ {stage inner request s w world}, Stage.Sound stage →
      stage.answers request world.now = false → stage.layers request.headers = false →
      motive inner (stage.completes request world) s (Sink.editAll w (stage.edits request world))
        (stage.onward request world) →
      motive (stage :: inner) request s w world)
    (recovery : ∀ {inner request s w world},
      motive inner request (.commit s) ({ inner := w } : CommitLayer (s.Writer τ σ))
        (Recovery.enter world) →
      motive (.recovery :: inner) request s w world)
    (logging : ∀ {inner request s w world},
      motive inner request (.status s) ({ inner := w } : StatusLayer (s.Writer τ σ)) world →
      motive (.logging :: inner) request s w world)
    (compression : ∀ {minSize pool inner request s w world},
      AcceptEncoding.requestAcceptsGzip request.headers = true →
      motive inner request (.gzip s)
        (GzipLayer.around (Compression.announce w) (EncoderPool.acquire pool).1 minSize) world →
      motive (.compression minSize pool :: inner) request s w world)
    {stages : List (Stage τ)} (hsound : ∀ stage ∈ stages, stage.Sound)
    (hanswers : ∀ stage ∈ stages, stage.answers request world.now = false)
    (s : Stack) (w : s.Writer τ σ) : motive stages request s w world := by
  -- on the stages, with whatever request and world the earlier ones hand on
  induction stages generalizing request s w world with
  | nil => exact nil request s w world
  | cons stage inner ih =>
    have hsound' : ∀ stage ∈ inner, stage.Sound :=
      fun x hx => hsound x (List.mem_cons_of_mem _ hx)
    have hanswers' : ∀ stage ∈ inner, stage.answers request world.now = false :=
      fun x hx => hanswers x (List.mem_cons_of_mem _ hx)
    by_cases hlayers : stage.layers request.headers = true
    · cases stage with
      | recovery =>
        refine recovery (ih hsound' ?_ _ _)
        exact hanswers'
      | logging => exact logging (ih hsound' hanswers' _ _)
      | compression minSize pool => exact compression hlayers (ih hsound' hanswers' _ _)
      | _ => exact absurd hlayers Bool.false_ne_true
    · rw [Bool.not_eq_true] at hlayers
      exact pass (hsound _ List.mem_cons_self) (hanswers _ List.mem_cons_self) hlayers
        (ih hsound' (Stage.answers_onward hanswers' stage) _ _)

end Chain

end HttpPipeline
