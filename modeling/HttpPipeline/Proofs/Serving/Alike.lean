import HttpPipeline.Proofs.Serving.Conducted
import HttpPipeline.Serving.Chain

/-!
# Serving towers that are alike

The stages of a chain ask things of a tower, put layers in front of it, and take them off again. So
they cannot tell two towers apart that no request tells apart, and what they leave are such towers
again (`Chain.serve_alike`). The handler has to be one that cannot either.

A stage that compresses puts one stream in front of both towers. What is asked of the relation
between streams is therefore that a stream further out than the towers is related to itself.
-/

namespace HttpPipeline

variable {ω : Type} {R : ω → ω → Prop}

/-! ### What follows a run -/

/-- A run and what follows it. -/
theorem Run.Alike.andThen {r r' : Run ω} (h : Run.Alike R r r') {next : ω → World → Run ω}
    (hnext : ∀ {w w'}, R w w' → ∀ world, Run.Alike R (next w world) (next w' world)) :
    Run.Alike R (r.andThen next) (r'.andThen next) := by
  unfold Run.andThen
  rw [h.ending, h.world]
  cases r'.ending with
  | panicked payload => exact h
  | returned =>
    have hlater := hnext h.writer r'.world
    exact ⟨hlater.ending, congrArg₂ _ h.replies hlater.replies, hlater.world, hlater.writer⟩

variable [Sink ω]

theorem Recovery.leave_alike (hR : Sink.Mirrors R) (request : Request)
    {run run' : Run (CommitLayer ω)} (h : Run.Alike (CommitLayer.Alike R) run run') :
    Run.Alike R (leave request run) (leave request run') := by
  obtain ⟨ending, replies, writer, world⟩ := run
  obtain ⟨ending', replies', writer', world'⟩ := run'
  obtain ⟨rfl, rfl, rfl, hwriter⟩ := h
  obtain ⟨hinner⟩ := hwriter
  rename_i inner inner' written
  cases ending with
  | returned => exact ⟨rfl, rfl, rfl, hinner⟩
  | panicked payload =>
    -- the identifier is read off the headers, which agree
    have hid : loggedId? request (CommitLayer.mk inner written)
        = loggedId? request (CommitLayer.mk inner' written) := by
      have hheaders := hR.headers hinner
      simp only [loggedId?, Sink.headers, hheaders]
    have hreply : R (if written then inner else Sink.errorReply inner 500 apology)
        (if written then inner' else Sink.errorReply inner' 500 apology) := by
      split_ifs
      · exact hinner
      · exact hR.errorReply hinner 500 apology
    cases payload with
    | abort => exact ⟨rfl, rfl, rfl, hinner⟩
    | _ => exact ⟨rfl, rfl, by simp only [leave, hid], hreply⟩

theorem AccessLog.leave_alike (hR : Sink.Mirrors R) (request : Request) (start : Int)
    {run run' : Run (StatusLayer ω)} (h : Run.Alike (StatusLayer.Alike R) run run') :
    Run.Alike R (leave request start run) (leave request start run') := by
  obtain ⟨ending, replies, writer, world⟩ := run
  obtain ⟨ending', replies', writer', world'⟩ := run'
  obtain ⟨rfl, rfl, rfl, hwriter⟩ := h
  obtain ⟨hinner⟩ := hwriter
  rename_i inner inner' status bytesWritten hijacked
  cases ending with
  | panicked payload => exact ⟨rfl, rfl, rfl, hinner⟩
  | returned =>
    have hid : loggedId? request (StatusLayer.mk inner status bytesWritten hijacked)
        = loggedId? request (StatusLayer.mk inner' status bytesWritten hijacked) := by
      have hheaders := hR.headers hinner
      simp only [loggedId?, Sink.headers, hheaders]
    exact ⟨rfl, rfl, by simp only [leave, hid, StatusLayer.effectiveStatus], hinner⟩

/-- **The end of a compression layer** frees streams that are related again. -/
theorem Compression.settle_alike {τ : Type} [MemberStream τ] {T : τ → τ → Prop}
    (hT : MemberStream.Twins T) (hR : Sink.Mirrors R) {run run' : Run (GzipLayer τ ω)}
    (h : Run.Alike (GzipLayer.Alike T R) run run') :
    Run.Alike R (settle run).1 (settle run').1 ∧ T (settle run).2 (settle run').2 := by
  obtain ⟨ending, replies, writer, world⟩ := run
  obtain ⟨ending', replies', writer', world'⟩ := run'
  obtain ⟨rfl, rfl, rfl, hwriter⟩ := h
  cases ending with
  | returned =>
    simp only [settle]
    refine (hwriter.close hT hR).elim fun result _ _ hleft => ?_
    obtain ⟨hstream, hinner⟩ := hleft
    cases result <;> exact ⟨⟨rfl, rfl, rfl, hinner⟩, hstream⟩
  | panicked payload =>
    have habandon := hwriter.abandon hT hR
    simp only [settle]
    generalize writer.abandon = left at habandon ⊢
    generalize writer'.abandon = left' at habandon ⊢
    obtain ⟨hstream, hinner⟩ := habandon
    exact ⟨⟨rfl, rfl, rfl, hinner⟩, hstream⟩

/-! ### Chains -/

namespace Chain

variable {τ σ : Type} [MemberStream τ] [Sink σ] {T : Nat → τ → τ → Prop} {R : σ → σ → Prop}

/-- The steps of a stage. -/
theorem silently_alike (hT : ∀ n, MemberStream.Twins (T n)) (hR : Sink.Mirrors R)
    (script : Script) (request : Request) {s : Stack} {w w' : s.Writer τ σ}
    (h : s.Alike T R w w') (world : World) :
    Run.Alike (s.Alike T R) (silently script request s w world)
      (silently script request s w' world) := by
  have hrun := (Step.conductAll script request world).run_alike hT hR h
  rw [Step.run_conductAll, Step.run_conductAll] at hrun
  exact ⟨hrun.ending, rfl, hrun.world, hrun.writer⟩

/-- **Serving a request** to towers that are alike comes to the same, if the handler cannot look
into layers. -/
theorem serve_alike (hT : ∀ n, MemberStream.Twins (T n)) (hR : Sink.Mirrors R)
    (conduct : Request → World → Conduct) (stages : List (Stage τ)) (request : Request) {s : Stack}
    {w w' : s.Writer τ σ} (world : World) (hself : ∀ n ≥ s.height, ∀ x, T n x x)
    (h : s.Alike T R w w') :
    Run.Alike (s.Alike T R) (serve stages (Conduct.handler conduct) request s w world).1
      (serve stages (Conduct.handler conduct) request s w' world).1 := by
  -- on the stages; each of them may put a layer in front of the towers, so their shape varies
  induction stages generalizing request s world with
  | nil => exact (conduct request world).run_alike hT hR h
  | cons stage inner ih =>
    have hmirrors := Stack.mirrors hT hR s
    have hbeyond : ∀ n ≥ s.height + 1, ∀ x, T n x x :=
      fun n hn => hself n (Nat.le_of_succ_le hn)
    have hedit (edit : Headers → Headers) := hmirrors.editHeaders h edit
    cases stage with
    | recovery =>
      exact Recovery.leave_alike hmirrors request
        (ih request (s := .commit s) (Recovery.enter world) hbeyond (.mk h))
    | requestId generator =>
      simp only [serve]
      refine ih _ _ hself ?_
      simp only [carryId]
      split_ifs
      · exact hedit _
      · exact h
    | logging =>
      exact AccessLog.leave_alike hmirrors request world.now
        (ih request (s := .status s) world hbeyond (.mk h))
    | cors policy =>
      simp only [serve]
      split
      · exact ih request world hself (hedit _)
      · have hgrant := hmirrors.editHeaders (hedit fun h => CorsPolicy.vary h "Origin")
          (policy.grant ‹_›)
        split_ifs
        · exact ⟨rfl, rfl, rfl, hmirrors.sendStatus (hmirrors.editHeaders hgrant _) 204⟩
        · exact ih request world hself hgrant
    | rateLimit bucket =>
      simp only [serve]
      split
      · exact ih request world hself h
      · exact ⟨rfl, rfl, rfl, hmirrors.errorReply (hedit _) 429 _⟩
    | compression minSize pool =>
      simp only [serve]
      split_ifs
      · -- one stream of the stage is put in front of both
        have htowers : (Stack.gzip s).Alike T R
            (GzipLayer.around (Compression.announce w) pool.acquire.1 minSize)
            (GzipLayer.around (Compression.announce w') pool.acquire.1 minSize) :=
          .mk (hself _ (Nat.le_refl _) _) (hedit _)
        have hrun := ih request (s := .gzip s) world hbeyond htowers
        exact (Compression.settle_alike (hT _) hmirrors hrun).1
      · exact ih request world hself (hedit _)
    | custom stage =>
      have hbefore := silently_alike hT hR stage.before request h world
      simp only [serve]
      rw [hbefore.ending]
      split
      · exact hbefore
      · have hinner := ih { request with id := stage.assigns <|> request.id }
          (silently stage.before request s w world).world hself hbefore.writer
        rw [← hbefore.world]
        exact hinner.andThen fun hw world => silently_alike hT hR stage.after _ hw world

end Chain

end HttpPipeline
