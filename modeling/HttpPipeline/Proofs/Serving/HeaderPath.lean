import HttpPipeline.Proofs.Serving.Handing
import HttpPipeline.Proofs.Serving.Moment
import HttpPipeline.Proofs.Serving.Recovered

/-!
# The path of one header

Stages edit the headers of a response before the handler is reached, the handler edits them, and on
the way back only what declares the body is edited (`bodyHeaders`). So there are three parts to the
path of any other header.

* The stages add values to it, or leave it alone (`Stage.Adds`). The handler finds the values that
  stood and all that were added, and the head is not sent on the way (`Chain.Carries`).
* The handler makes of it what its calls say. A script that neither sets nor removes the header
  (`Script.keeps`) leaves the values that it found, at the front of what may have been appended,
  even if it goes behind the layers it was given (`Script.prefixed`).
* Nobody touches what the handler left. This is the last part of `Chain.serve_carries`.
-/

namespace HttpPipeline

/-! ### Headers that nobody edits of his own accord -/

/-- The headers that declare a body: compression and replies edit these, and no others. -/
def bodyHeaders : List String :=
  ["content-type", "content-encoding", "content-length", "x-content-type-options"]

section

variable {name : String} (hname : name ∉ bodyHeaders)

include hname

theorem ne_of_mem_bodyHeaders {other : String} (hother : other ∈ bodyHeaders) :
    (other == name) = false :=
  beq_false_of_ne fun h => hname (h ▸ hother)

theorem mayCompress_one : GzipLayer.MayCompress (.sparing (· == name)) := by
  refine GzipLayer.mayCompress_sparing fun other hother => ne_of_mem_bodyHeaders hname ?_
  revert other
  decide

theorem reply_one : ∀ other ∈ ["content-length", "content-type", "x-content-type-options"],
    (other == name) = false := by
  refine fun other hother => ne_of_mem_bodyHeaders hname ?_
  revert other
  decide

/-- The same of the header itself. -/
theorem not_mem_reply : name ∉ ["content-length", "content-type", "x-content-type-options"] := by
  intro hmem
  have hother := reply_one hname name hmem
  rw [beq_self_eq_true] at hother
  exact Bool.false_ne_true hother.symm

end

/-! ### On the way back -/

namespace GzipLayer

variable {τ ω : Type} [MemberStream τ] [Sink ω] {kinds : Requests} {P : ω → Prop}

/-- **The end of a response** is made of the same requests as what comes before it. -/
theorem outlasts_close (hkinds : MayCompress kinds) (hP : Sink.Outlasts kinds P)
    {l : GzipLayer τ ω} (h : P l.inner) : P l.close.2.inner := by
  have hcommit := outlasts_commit hkinds hP h
  unfold GzipLayer.close
  split_ifs
  · exact h
  · simp only
    split
    · exact hcommit
    · split
      · exact MemberStream.finish_outlasts hP.writes hcommit _
      · exact hcommit

theorem outlasts_abandon (hP : Sink.Outlasts kinds P) {l : GzipLayer τ ω} (h : P l.inner) :
    P l.abandon.inner := by
  unfold GzipLayer.abandon
  split
  · exact MemberStream.finish_outlasts hP.writes h _
  · exact h

end GzipLayer

namespace Chain

variable {τ σ : Type} [MemberStream τ] [Sink σ] {name : String}

/-- **The stage that recovers** may send a reply, which edits other headers. -/
theorem leave_recovery_spares (hname : name ∉ bodyHeaders) (s : Stack) (request : Request)
    (run : Run (CommitLayer (s.Writer τ σ))) :
    Sink.Reached (.sparing (· == name)) (s.base run.writer.inner)
      (s.base (Recovery.leave request run).writer) := by
  obtain ⟨ending, replies, writer, world⟩ := run
  cases ending with
  | returned => exact .refl
  | panicked payload =>
    by_cases habort : payload = .abort
    · subst habort
      exact .refl
    · rw [(Recovery.leave_panicked request rfl habort).2.1]
      split_ifs
      · exact .refl
      · have hspares : (Call.errorReply 500 Recovery.apology).spares (· == name) = true :=
          (Call.spares_of_isHeader_eq_false rfl (reply_one hname)).1
        exact (s.outlasts (mayCompress_one hname)
          (Sink.outlasts_reached _ (s.base writer.inner))).perform .refl hspares

/-- **The stage that compresses** ends its layer. -/
theorem leave_compression_spares (hname : name ∉ bodyHeaders) (s : Stack) (pool : EncoderPool τ)
    (run : Run (GzipLayer τ (s.Writer τ σ))) :
    Sink.Reached (.sparing (· == name)) (s.base run.writer.inner)
      (s.base (Compression.leave pool run).1.writer) := by
  have hlayers := mayCompress_one hname
  have hreached := s.outlasts (τ := τ) hlayers
    (Sink.outlasts_reached (.sparing (· == name)) (s.base run.writer.inner))
  obtain ⟨ending, replies, writer, world⟩ := run
  cases ending with
  | returned =>
    have hclosed := GzipLayer.outlasts_close hlayers hreached (l := writer) .refl
    simp only [Compression.leave, Compression.settle]
    split <;> rename_i hclose <;> rw [hclose] at hclosed <;> exact hclosed
  | panicked payload => exact GzipLayer.outlasts_abandon hreached (l := writer) .refl

end Chain

/-! ### On the way to the handler, and back -/

/-- **What a stage adds** to the values of a header before it hands the response on. -/
def Stage.Adds {τ : Type} (name : String) (stage : Stage τ) (added : List Bytes) : Prop :=
  ∀ request world (h : Headers),
    ((stage.edits request world).foldl (fun h edit => edit h) h).values name
      = h.values name ++ added

namespace Chain

variable {τ σ : Type} [MemberStream τ] [Sink σ] {sent : σ → Option Head} {name : String}
  {adds : Stage τ → List Bytes}

/-- What reaches the handler of a chain, and what comes back of what any handler leaves: what the
stages add stands there, the head is not sent on the way, and nobody touches the header on the way
back. -/
structure Carries (sent : σ → Option Head) (name : String) (adds : Stage τ → List Bytes) {s : Stack}
    (stages : List (Stage τ)) (request : Request) (w : s.Writer τ σ) (world : World)
    (e : Entry τ σ s) : Prop where
  entry : entry stages request s w world = some e
  unsent : sent (e.shape.base e.writer) = sent (s.base w)
  values : (Sink.headers e.writer).values name
    = (Sink.headers w).values name ++ stages.flatMap adds
  spared : ∀ handler : Handler τ σ, Sink.Reached (.sparing (· == name))
    (e.shape.base (handler e.request e.shape e.writer e.world).writer)
    (s.base (serve stages handler request s w world).1.writer)

/-- A stage that puts a layer in front of the response and takes it off again. -/
theorem Carries.layer {s t : Stack} {stage : Stage τ} {inner : List (Stage τ)}
    {request request' : Request} {w : s.Writer τ σ} {l : t.Writer τ σ} {world world' : World}
    {e : Entry τ σ t} (h : Carries sent name adds inner request' l world' e)
    (below : t.Writer τ σ → s.Writer τ σ) (leave : Run (t.Writer τ σ) → Run (s.Writer τ σ))
    (hentry : Chain.entry (stage :: inner) request s w world
      = (Chain.entry inner request' t l world').map fun e => e.through below)
    (hserve : ∀ handler, (serve (stage :: inner) handler request s w world).1
      = leave (serve inner handler request' t l world').1)
    (hsent : sent (t.base l) = sent (s.base w))
    (hvalues : (Sink.headers l).values name = (Sink.headers w).values name ++ adds stage)
    (hspared : ∀ run, Sink.Reached (.sparing (· == name)) (t.base run.writer)
      (s.base (leave run).writer)) :
    Carries sent name adds (stage :: inner) request w world (e.through below) where
  entry := by
    rw [hentry, h.entry]
    rfl
  unsent := h.unsent.trans hsent
  values := by
    rw [List.flatMap_cons, ← List.append_assoc, ← hvalues]
    exact h.values
  spared := by
    intro handler
    rw [hserve]
    exact (h.spared handler).trans (hspared _)

/-- Edits of a tower are edits of the headers of its bottom. -/
theorem editAll_headers (hsent : Sink.SendsHead sent) (s : Stack) (w : s.Writer τ σ)
    (edits : List (Headers → Headers)) :
    sent (s.base (Sink.editAll w edits)) = sent (s.base w) ∧
      Sink.headers (Sink.editAll w edits)
        = edits.foldl (fun h edit => edit h) (Sink.headers w) := by
  induction edits generalizing w with
  | nil => exact ⟨rfl, rfl⟩
  | cons edit edits ih =>
    obtain ⟨hstill, hheaders⟩ := ih (Sink.editHeaders w edit)
    refine ⟨hstill.trans ?_, hheaders.trans ?_⟩
    · rw [s.base_editHeaders, hsent.sent_edit]
    · rw [s.headers_base, s.base_editHeaders, hsent.headers_edit, s.headers_base w]
      rfl

/-- **The path of a header** through a chain of which no stage answers. -/
theorem serve_carries (hsent : Sink.SendsHead sent) (hname : name ∉ bodyHeaders)
    (request : Request) (stages : List (Stage τ)) (hsound : ∀ stage ∈ stages, stage.Sound)
    (hadds : ∀ stage ∈ stages, stage.Adds name (adds stage)) {s : Stack} (w : s.Writer τ σ)
    (world : World) (hanswers : ∀ stage ∈ stages, stage.answers request world.now = false) :
    ∃ e, Carries sent name adds stages request w world e := by
  have htail {stage : Stage τ} {inner : List (Stage τ)}
      (hadds : ∀ x ∈ stage :: inner, x.Adds name (adds x)) : ∀ x ∈ inner, x.Adds name (adds x) :=
    fun x hx => hadds x (List.mem_cons_of_mem _ hx)
  -- what a stage adds is there, whether it puts a layer in front or not
  have hadded {stage : Stage τ} (hstage : stage.Adds name (adds stage)) (request : Request)
      {s : Stack} (w : s.Writer τ σ) (world : World) :
      (Sink.headers (Sink.editAll w (stage.edits request world))).values name
        = (Sink.headers w).values name ++ adds stage := by
    rw [(editAll_headers hsent s w _).2, hstage]
  -- a stage that only puts a layer in front adds nothing
  have hnothing {stage : Stage τ} (hstage : stage.Adds name (adds stage))
      (hedits : stage.edits request world = []) (h : Headers) :
      h.values name = h.values name ++ adds stage := by
    rw [← hstage request world h, hedits]
    rfl
  revert hadds
  refine onward_induction (motive := fun stages request _ w world =>
    (∀ stage ∈ stages, stage.Adds name (adds stage)) →
      ∃ e, Carries sent name adds stages request w world e)
    ?nil ?pass ?recovery ?logging ?compression hsound hanswers s w
  case nil =>
    exact fun request s w world _ => ⟨_, rfl, rfl, (List.append_nil _).symm, fun _ => .refl⟩
  case pass =>
    intro stage inner request s w world hstage hanswer hlayers ih hadds
    obtain ⟨e, he⟩ := ih (htail hadds)
    refine ⟨e, (entry_onward hstage hanswer hlayers inner s w).trans he.entry,
      he.unsent.trans (editAll_headers hsent s w _).1, ?_, fun handler => ?_⟩
    · rw [he.values, hadded (hadds _ List.mem_cons_self), List.append_assoc, List.flatMap_cons]
    · rw [serve_onward hstage hanswer hlayers]
      exact he.spared handler
  case recovery =>
    intro inner request s w world ih hadds
    obtain ⟨e, he⟩ := ih (htail hadds)
    exact ⟨_, he.layer CommitLayer.inner (Recovery.leave request) rfl (fun _ => rfl) rfl
      (hnothing (hadds _ List.mem_cons_self) rfl _) (leave_recovery_spares hname s request)⟩
  case logging =>
    intro inner request s w world ih hadds
    obtain ⟨e, he⟩ := ih (htail hadds)
    refine ⟨_, he.layer StatusLayer.inner (AccessLog.leave request world.now) rfl (fun _ => rfl) rfl
      (hnothing (hadds _ List.mem_cons_self) rfl _) fun run => ?_⟩
    rw [(AccessLog.leave_spec request world.now run).2.1]
    exact .refl
  case compression =>
    intro minSize pool inner request s w world haccepts ih hadds
    obtain ⟨e, he⟩ := ih (htail hadds)
    let stage : Stage τ := .compression minSize pool
    exact ⟨_, he.layer GzipLayer.inner (fun run => (Compression.leave pool.acquire.2 run).1)
      (entry_compressing haccepts inner s w) (fun _ => serve_compressing haccepts inner _ s w)
      (editAll_headers hsent s w (stage.edits request world)).1
      (hadded (hadds stage List.mem_cons_self) request w world)
      (leave_compression_spares hname s _)⟩

end Chain

/-! ### In the handler -/

mutual

/-- Whether a step, and every step within it, takes no value from a header. -/
def Step.keeps (name : String) : Step → Bool
  | .call asked => !asked.loses name
  | .repeated _ steps => Script.keeps name steps
  | .unwrap _ step => step.keeps name
  | .attempt steps => Script.keeps name steps
  | _ => true

/-- **Whether a script takes no value from a header**, neither by setting it nor by removing it. -/
def Script.keeps (name : String) : List Step → Bool
  | [] => true
  | step :: steps => step.keeps name && Script.keeps name steps

end

/-- Where the head is not looked at. -/
theorem Sink.SendsHead.unseen {ω : Type} [Sink ω] {sent : ω → Option Head} (h : SendsHead sent) :
    SendsHead fun _ : ω => none where
  setHeaders w headers := ⟨(h.setHeaders w headers).1, rfl⟩
  sendStatus w code := ⟨(h.sendStatus w code).1, .inl rfl⟩
  write w data := ⟨(h.write w data).1, .inl rfl⟩
  flush w := ⟨(h.flush w).1, .inl rfl⟩
  hijack w answer := ⟨(h.hijack w answer).1, .inl rfl⟩

/-- What requests spare of the live headers is the same after them. -/
theorem Sink.SendsHead.values_spared {ω : Type} [Sink ω] {sent : ω → Option Head}
    (h : SendsHead sent) {name : String} {first later : ω}
    (hreached : Reached (.sparing (· == name)) first later) :
    (Sink.headers later).values name = (Sink.headers first).values name :=
  h.unseen.carried_values rfl hreached (beq_self_eq_true name)

/-- **Going behind layers** is acting on another tower over the same bottom. -/
theorem Stack.base_within {τ σ ρ : Type} {action : (t : Stack) → t.Writer τ σ → ρ × t.Writer τ σ}
    {depth : Nat} {s : Stack} {w w' : s.Writer τ σ} {r : ρ}
    (h : within action depth s w = some (r, w')) :
    ∃ (t : Stack) (v : t.Writer τ σ), s.base w = t.base v ∧ s.base w' = t.base (action t v).2 :=
  within_induction (motive := fun s w w' =>
      ∃ (t : Stack) (v : t.Writer τ σ), s.base w = t.base v ∧ s.base w' = t.base (action t v).2)
    (fun s w _ => ⟨s, w, rfl, rfl⟩) (fun _ _ h => h) (fun _ _ h => h) (fun _ _ h => h)
    (fun _ _ h => h) h

section

variable {τ σ : Type} [MemberStream τ] [Sink σ] {sent : σ → Option Head} {name : String}

/-- **The values of a header stay** at the front. -/
def Sink.Prefixed (name : String) (first later : σ) : Prop :=
  (Sink.headers first).values name <+: (Sink.headers later).values name

/-- One call, at any tower. -/
theorem Call.perform_prefixed (hsent : Sink.SendsHead sent) (hname : name ∉ bodyHeaders) {s : Stack}
    (w : s.Writer τ σ) {call : Call} (hcall : call.loses name = false) :
    Sink.Prefixed name (s.base w) (s.base (call.perform w).2) := by
  have hvalues := (s.perform_values hsent.unseen (mayCompress_one hname) (reply_one hname)
    (w := w) rfl call (beq_self_eq_true name)).2 rfl
  rw [Sink.Prefixed, ← s.headers_base, ← s.headers_base, hvalues]
  exact call.prefix_values_edited hcall (not_mem_reply hname) _

omit [MemberStream τ] in
theorem Run.prefixed_andThen {s : Stack} {w : s.Writer τ σ} {run : Run (s.Writer τ σ)}
    {next : s.Writer τ σ → World → Run (s.Writer τ σ)}
    (hrun : Sink.Prefixed name (s.base w) (s.base run.writer))
    (hnext : ∀ v world, Sink.Prefixed name (s.base v) (s.base (next v world).writer)) :
    Sink.Prefixed name (s.base w) (s.base (run.andThen next).writer) := by
  unfold andThen
  split
  · exact hrun
  · exact hrun.trans (hnext _ _)

omit [MemberStream τ] in
theorem Run.prefixed_iterate {s : Stack} {part : s.Writer τ σ → World → Run (s.Writer τ σ)}
    (hpart : ∀ v world, Sink.Prefixed name (s.base v) (s.base (part v world).writer))
    (times : Nat) (w : s.Writer τ σ) (world : World) :
    Sink.Prefixed name (s.base w) (s.base (iterate part times w world).writer) := by
  induction times generalizing w world with
  | zero => exact List.prefix_rfl
  | succ times ih => exact prefixed_andThen (hpart w world) ih

mutual

theorem Step.prefixed (hsent : Sink.SendsHead sent) (hname : name ∉ bodyHeaders) (step : Step)
    (hkeeps : step.keeps name = true) (request : Request) (s : Stack) (w : s.Writer τ σ)
    (world : World) :
    Sink.Prefixed name (s.base w) (s.base (step.run request s w world).writer) := by
  cases step with
  | call asked => exact asked.perform_prefixed hsent hname w (by simpa [Step.keeps] using hkeeps)
  | echo what => exact (Call.writeAll (what.data request)).perform_prefixed hsent hname w rfl
  | sleep nanoseconds => exact List.prefix_rfl
  | panic payload hooked => exact List.prefix_rfl
  | repeated times steps =>
    exact Run.prefixed_iterate
      (fun v world => Script.prefixed hsent hname steps hkeeps request s v world) times w world
  | unwrap depth step =>
    simp only [Step.run]
    split
    · rename_i hwithin
      -- the bottom is the same seen from the layer that the walk comes to
      obtain ⟨t, v, hbefore, hafter⟩ := Stack.base_within hwithin
      rw [hbefore, hafter]
      exact Step.prefixed hsent hname step hkeeps request t v world
    · exact List.prefix_rfl
  | attempt steps => exact Script.prefixed hsent hname steps hkeeps request s w world
  | close => exact List.prefix_rfl

/-- **A script that takes no value from a header** leaves the values that it found at the front,
whatever else it does and wherever it goes. -/
theorem Script.prefixed (hsent : Sink.SendsHead sent) (hname : name ∉ bodyHeaders)
    (script : List Step) (hkeeps : Script.keeps name script = true) (request : Request) (s : Stack)
    (w : s.Writer τ σ) (world : World) :
    Sink.Prefixed name (s.base w) (s.base (Step.runAll script request s w world).writer) := by
  cases script with
  | nil => exact List.prefix_rfl
  | cons step steps =>
    obtain ⟨hstep, hsteps⟩ := Bool.and_eq_true_iff.mp hkeeps
    exact Run.prefixed_andThen (Step.prefixed hsent hname step hstep request s w world)
      fun v world => Script.prefixed hsent hname steps hsteps request s v world

end

end

end HttpPipeline
