import HttpPipeline.Settings.Documents
import HttpPipeline.Proofs.Gzip.Member
import HttpPipeline.Proofs.Serving.Identity
import Mathlib.Data.List.Forall2
import Mathlib.Tactic.SplitIfs

/-!
# What reaches the handler of a chain

A chain puts layers in front of the response, edits its headers and completes the request
before its handler sees them. `Chain.entry` is what the handler is given, or nothing if a
stage answers in its place. An entry also knows the way back: `Entry.below` takes the tower
that the handler leaves to the part of it that the chain was given.

A stage changes its state with each request, and several requests may be on their way at
once. What all of them leave as it is, is the kind of each stage and that a pool lends new
streams (`Stage.Became`, `Chain.serve_became`).
-/

namespace HttpPipeline

/-! ### Stages -/

namespace Stage

variable {τ : Type}

/-- Whether a stage answers a request at some instant in place of the stages further in: a
preflight from an allowed origin, or a request beyond the rate. -/
def answers (request : Request) (now : Int) : Stage τ → Bool
  | .cors policy =>
    (policy.allowedOrigin? request.headers).isSome &&
      CorsPolicy.isPreflight request.method request.headers
  | .rateLimit bucket => (bucket.acquireAt now).1 != .admitted
  | _ => false

variable [MemberStream τ]

/-- A stage that comes with the pipeline, with a pool that lends new streams if it
compresses. -/
def Sound : Stage τ → Prop
  | .compression _ pool => pool.Reachable
  | .custom _ => False
  | _ => True

/-- **What may become of a stage** while requests are served, in whatever order and however
many at once. -/
inductive Became : Stage τ → Stage τ → Prop
  | recovery : Became .recovery .recovery
  | requestId (first later : Generator) : Became (.requestId first) (.requestId later)
  | logging : Became .logging .logging
  | cors (policy : CorsPolicy) : Became (.cors policy) (.cors policy)
  | rateLimit (first later : Bucket Binary64) : Became (.rateLimit first) (.rateLimit later)
  | compression (minSize : Nat) (first later : EncoderPool τ) (h : later.Reachable) :
    Became (.compression minSize first) (.compression minSize later)

theorem Became.sound {first later : Stage τ} (h : Became first later) : later.Sound := by
  cases h with
  | compression minSize first later h => exact h
  | _ => trivial

theorem Became.name {first later : Stage τ} (h : Became first later) :
    later.name = first.name := by
  cases h <;> rfl

theorem Sound.became {stage : Stage τ} (h : stage.Sound) : Became stage stage := by
  cases stage with
  | recovery => exact .recovery
  | requestId generator => exact .requestId generator generator
  | logging => exact .logging
  | cors policy => exact .cors policy
  | rateLimit bucket => exact .rateLimit bucket bucket
  | compression minSize pool => exact .compression minSize pool pool h
  | custom stage => exact absurd h id

theorem Became.trans {first second third : Stage τ} (h : Became first second)
    (h' : Became second third) : Became first third := by
  cases h with
  | recovery => exact h'
  | logging => exact h'
  | cors policy => exact h'
  | requestId first second =>
    cases h' with
    | requestId _ third => exact .requestId first third
  | rateLimit first second =>
    cases h' with
    | rateLimit _ third => exact .rateLimit first third
  | compression minSize first second =>
    cases h' with
    | compression _ _ third hthird => exact .compression minSize first third hthird

end Stage

/-! ### Chains of settings -/

namespace ChainSettings

variable {τ : Type} [MemberStream τ]

/-- The stages of some settings come with the pipeline. -/
theorem sound_chain (settings : ChainSettings) (host : Option Bytes) (now : Int) :
    ∀ stage ∈ (settings.chain (τ := τ) host now).1, stage.Sound := by
  intro stage hstage
  simp only [chain, List.mem_append, Option.mem_toList, Option.map_map,
    Option.map_eq_some_iff] at hstage
  have hflag {b : Bool} {x : Stage τ} (hx : x.Sound) (h : stage ∈ if b then [x] else []) :
      stage.Sound := by
    split_ifs at h
    · rwa [List.mem_singleton.mp h]
    · exact absurd h List.not_mem_nil
  obtain ((((h | h) | h) | ⟨_, -, rfl⟩) | ⟨_, -, rfl⟩) | ⟨_, -, rfl⟩ := hstage
  · exact hflag (x := .recovery) trivial h
  · exact hflag (x := .requestId _) trivial h
  · exact hflag (x := .logging) trivial h
  · trivial
  · trivial
  · exact EncoderPool.Reachable.made _ _

omit [MemberStream τ] in
/-- The order of the stages, of which some settings have a part. -/
theorem names_chain (settings : ChainSettings) (host : Option Bytes) (now : Int) :
    ((settings.chain (τ := τ) host now).1.map Stage.name).Sublist
      (["recovery"] ++ ["request_id"] ++ ["logging"] ++ ["cors"] ++ ["rate_limit"] ++
        ["compression"]) := by
  have hflag {b : Bool} {x : Stage τ} {name : String} (hname : x.name = name) :
      ((if b then [x] else []).map Stage.name).Sublist [name] := by
    split_ifs
    · rw [List.map_singleton, hname]
    · exact List.nil_sublist _
  have hpart {α : Type} {a : Option α} {f : α → Stage τ} {name : String}
      (hname : ∀ x, (f x).name = name) : ((a.map f).toList.map Stage.name).Sublist [name] := by
    cases a with
    | none => exact List.nil_sublist _
    | some x =>
      rw [Option.map_some, Option.toList_some, List.map_singleton, hname]
  simp only [chain, List.map_append]
  refine .append (.append (.append (.append (.append ?_ ?_) ?_) ?_) ?_) ?_
  · exact hflag rfl
  · exact hflag rfl
  · exact hflag rfl
  · exact hpart fun _ => rfl
  · exact hpart fun _ => rfl
  · exact hpart fun _ => rfl

omit [MemberStream τ] in
/-- No stage of some settings is there twice. -/
theorem nodup_chain (settings : ChainSettings) (host : Option Bytes) (now : Int) :
    ((settings.chain (τ := τ) host now).1.map Stage.name).Nodup :=
  (names_chain settings host now).nodup (by decide)

end ChainSettings

namespace Chain

variable {τ σ : Type} [MemberStream τ] [Sink σ]

/-- Stages that came with the pipeline, as they may be after any number of requests. -/
abbrev Became (first later : List (Stage τ)) : Prop := List.Forall₂ Stage.Became first later

theorem Became.sound {first later : List (Stage τ)} (h : Became first later) :
    ∀ stage ∈ later, stage.Sound := by
  induction h with
  | nil => exact fun stage hstage => absurd hstage List.not_mem_nil
  | cons hstage _ ih =>
    intro stage hmem
    rcases List.mem_cons.mp hmem with rfl | hmem
    · exact hstage.sound
    · exact ih stage hmem

theorem Became.names {first later : List (Stage τ)} (h : Became first later) :
    later.map Stage.name = first.map Stage.name := by
  induction h with
  | nil => rfl
  | cons hstage _ ih => rw [List.map_cons, List.map_cons, hstage.name, ih]

theorem Became.trans {first second third : List (Stage τ)} (h : Became first second)
    (h' : Became second third) : Became first third := by
  induction h generalizing third with
  | nil => exact h'
  | cons hstage _ ih =>
    cases h' with
    | cons hstage' hrest => exact .cons (hstage.trans hstage') (ih hrest)

/-- **Serving a request** changes the stages as it should. -/
theorem serve_became (stages : List (Stage τ)) (handler : Handler τ σ) {s : Stack}
    (hsound : ∀ stage ∈ stages, stage.Sound) (request : Request) (w : s.Writer τ σ)
    (world : World) : Became stages (serve stages handler request s w world).2 := by
  -- on the stages: each may change itself, and those further in do by the induction
  induction stages generalizing s request world with
  | nil => exact .nil
  | cons stage inner ih =>
    have hinner : ∀ stage ∈ inner, stage.Sound :=
      fun x hx => hsound x (List.mem_cons_of_mem _ hx)
    -- the stages further in, when a stage answers in their place
    have hsame : Became inner inner :=
      List.forall₂_same.mpr fun x hx => (hinner x hx).became
    cases stage with
    | recovery => exact .cons .recovery (ih hinner _ _ _)
    | requestId generator => exact .cons (.requestId _ _) (ih hinner _ _ _)
    | logging => exact .cons .logging (ih hinner _ _ _)
    | cors policy =>
      simp only [serve]
      split
      · exact .cons (.cors policy) (ih hinner _ _ _)
      · split_ifs
        · exact .cons (.cors policy) hsame
        · exact .cons (.cors policy) (ih hinner _ _ _)
    | rateLimit bucket =>
      simp only [serve]
      split
      · exact .cons (.rateLimit _ _) (ih hinner _ _ _)
      · exact .cons (.rateLimit _ _) hsame
    | compression minSize pool =>
      have hpool : pool.Reachable := hsound _ List.mem_cons_self
      simp only [serve]
      split_ifs
      · exact .cons (.compression _ _ _ (hpool.lent.returned _)) (ih hinner _ _ _)
      · exact .cons (.compression _ _ _ hpool) (ih hinner _ _ _)
    | custom stage => exact absurd (hsound _ List.mem_cons_self) id

/-- One more request. -/
theorem Became.serve {first stages : List (Stage τ)} (h : Became first stages)
    (handler : Handler τ σ) {s : Stack} (request : Request) (w : s.Writer τ σ) (world : World) :
    Became first (serve stages handler request s w world).2 :=
  h.trans (serve_became stages handler h.sound request w world)

end Chain

/-! ### What the handler is given -/

/-- What the handler of a chain is given. -/
structure Entry (τ σ : Type) (s : Stack) where
  shape : Stack
  writer : shape.Writer τ σ
  /-- The part of such a tower that the chain was given. -/
  below : shape.Writer τ σ → s.Writer τ σ
  request : Request
  world : World

/-- The entry of a chain inside a layer. -/
def Entry.through {τ σ : Type} {s t : Stack} (e : Entry τ σ t)
    (inner : t.Writer τ σ → s.Writer τ σ) : Entry τ σ s :=
  { e with below := fun w => inner (e.below w) }

namespace Chain

variable {τ σ : Type} [MemberStream τ] [Sink σ]

/-- **What the handler of a chain is given**, unless a stage answers in its place. -/
def entry (stages : List (Stage τ)) (request : Request) (s : Stack) (w : s.Writer τ σ)
    (world : World) : Option (Entry τ σ s) :=
  match stages with
  | [] => some { shape := s, writer := w, below := id, request, world }
  | .recovery :: inner =>
    let layer : CommitLayer (s.Writer τ σ) := { inner := w }
    (entry inner request (.commit s) layer (Recovery.enter world)).map
      fun e => e.through CommitLayer.inner
  | .requestId generator :: inner =>
    let (id, _, world) := chooseId generator request.headers world
    let w := Sink.editHeaders w fun h => h.insert idHeader (Bytes.ofString id)
    entry inner { request with id := some id } s w world
  | .logging :: inner =>
    let layer : StatusLayer (s.Writer τ σ) := { inner := w }
    (entry inner request (.status s) layer world).map fun e => e.through StatusLayer.inner
  | .cors policy :: inner =>
    let w := Sink.editHeaders w fun h => CorsPolicy.vary h "Origin"
    match policy.allowedOrigin? request.headers with
    | none => entry inner request s w world
    | some origin =>
      let w := Sink.editHeaders w (policy.grant origin)
      if CorsPolicy.isPreflight request.method request.headers then none
      else entry inner request s w world
  | .rateLimit bucket :: inner =>
    match (bucket.acquireAt world.now).1 with
    | .admitted => entry inner request s w world
    | .rejected _ => none
  | .compression minSize pool :: inner =>
    let w := Compression.announce w
    if AcceptEncoding.requestAcceptsGzip request.headers then
      let layer : GzipLayer τ (s.Writer τ σ) := .around w pool.acquire.1 minSize
      (entry inner request (.gzip s) layer world).map fun e => e.through GzipLayer.inner
    else entry inner request s w world
  | .custom stage :: inner =>
    let before := silently stage.before request s w world
    match before.ending with
    | .panicked _ => none
    | .returned =>
      entry inner { request with id := stage.assigns <|> request.id } s before.writer before.world

end Chain

end HttpPipeline
