import HttpPipeline.Proofs.Response.Detached
import HttpPipeline.Proofs.Serving.Handing
import HttpPipeline.Proofs.Serving.Recovered

/-!
# What the access log says of an upgrade

A handler upgrades a connection by taking it over before it has given any status. The access log
then has `101` to report. But the layer of the log goes on watching, and a handler that still gives
a status or writes, as if the response were its own, is noted by it (`StatusLayer.watches`): the
log reports that status, although nothing of it was sent.

A stage further in that compresses the response lets nothing of this pass, so behind such a stage
the log reports `101` whatever the handler does (`Chain.serve_logs`). The stages in between are
dealt with one at a time, by induction on the chain (`Chain.serve_upgrades`).
-/

namespace HttpPipeline

namespace Chain

variable {τ σ : Type} [MemberStream τ] [Sink σ]

/-- **What serving comes to** if a script is the handler, no stage answers in its place, and the
script takes the connection over before it gives a status. -/
structure Upgrades (script : Script) {s : Stack} (shielded : Bool)
    (taken : Option Status → s.Writer τ σ → Prop) (stages : List (Stage τ)) (request : Request)
    (w : s.Writer τ σ) (world : World) (e : Entry τ σ s) : Prop where
  entry : entry stages request s w world = some e
  ends : (Script.course e.request script).ending = .returned →
    (serve stages script.handler request s w world).1.ending = .returned
  taken : ∀ {first answer later waiting},
    (Script.course e.request script).calls = first ++ .hijack answer :: later →
    (∀ call ∈ first, call.status? = none) →
    (Sink.hijack (Call.performAll first e.writer).2 answer).1 = .ok waiting →
    taken (latch shielded none (later.findSome? (Call.given? none)))
      (serve stages script.handler request s w world).1.writer

variable {script : Script} {s t : Stack} {shielded : Bool}
  {taken : Option Status → s.Writer τ σ → Prop} {taken' : Option Status → t.Writer τ σ → Prop}
  {stage : Stage τ} {inner : List (Stage τ)} {request request' : Request}
  {w w' : s.Writer τ σ} {l : t.Writer τ σ} {world world' : World}

/-- A stage that puts no layer in front of the response. -/
theorem Upgrades.pass {e : Entry τ σ s} (hsound : stage.Sound)
    (hanswer : stage.answers request world.now = false)
    (hlayers : stage.layers request.headers = false)
    (h : Upgrades script shielded taken inner (stage.completes request world)
      (Sink.editAll w (stage.edits request world)) (stage.onward request world) e) :
    Upgrades script shielded taken (stage :: inner) request w world e where
  entry := (entry_onward hsound hanswer hlayers inner s w).trans h.entry
  ends := by
    rw [serve_onward hsound hanswer hlayers]
    exact h.ends
  taken := by
    rw [serve_onward hsound hanswer hlayers]
    exact h.taken

/-- A stage that puts a layer in front of the response and takes it off again. -/
theorem Upgrades.layer {e : Entry τ σ t}
    (h : Upgrades script shielded taken' inner request' l world' e)
    (below : t.Writer τ σ → s.Writer τ σ) (leave : Run (t.Writer τ σ) → Run (s.Writer τ σ))
    (hentry : Chain.entry (stage :: inner) request s w world
      = (Chain.entry inner request' t l world').map fun e => e.through below)
    (hserve : (serve (stage :: inner) script.handler request s w world).1
      = leave (serve inner script.handler request' t l world').1)
    (hends : ∀ run, run.ending = .returned → (leave run).ending = .returned)
    (htaken : ∀ seen run, taken' seen run.writer → taken seen (leave run).writer) :
    Upgrades script shielded taken (stage :: inner) request w world (e.through below) where
  entry := by
    rw [hentry, h.entry]
    rfl
  ends := by
    rw [hserve]
    exact fun hreturned => hends _ (h.ends hreturned)
  taken := by
    rw [hserve]
    exact fun hcalls hfirst hgranted => htaken _ _ (h.taken hcalls hfirst hgranted)

/-- **The stage that recovers** has no reply to send, because the take-over has committed the
response. -/
theorem leave_recovery {ω : Type} [Sink ω] (request : Request) {run : Run (CommitLayer ω)}
    (hwritten : run.writer.written = true) :
    (Recovery.leave request run).writer = run.writer.inner := by
  obtain ⟨ending, replies, writer, world⟩ := run
  cases ending with
  | returned => rfl
  | panicked payload =>
    by_cases habort : payload = .abort
    · subst habort
      rfl
    · rw [(Recovery.leave_panicked request rfl habort).2.1, if_pos hwritten]

/-- **The stage that compresses** has nothing to end, because the connection is gone. -/
theorem leave_compression {ω : Type} [Sink ω] (pool : EncoderPool τ) {run : Run (GzipLayer τ ω)}
    (hhijacked : run.writer.hijacked = true) :
    (Compression.leave pool run).1.writer = run.writer.inner := by
  obtain ⟨ending, replies, writer, world⟩ := run
  cases ending with
  | returned =>
    simp only [Compression.leave, Compression.settle, GzipLayer.close_of_hijacked hhijacked]
  | panicked payload =>
    have habandon : writer.abandon = writer := by
      unfold GzipLayer.abandon
      split
      · rename_i hnot
        exact absurd (hnot.symm.trans hhijacked) Bool.false_ne_true
      · rfl
    simp only [Compression.leave, Compression.settle, habandon]

/-- Edits of its headers find a sink idle and leave it so. -/
theorem idle_editAll {ω : Type} [Sink ω] {idle : ω → Prop} {taken : Option Status → ω → Prop}
    (hwatches : Sink.Watches shielded idle taken) {w : ω} (hw : idle w)
    (edits : List (Headers → Headers)) : idle (Sink.editAll w edits) := by
  induction edits generalizing w with
  | nil => exact hw
  | cons edit edits ih => exact ih (hwatches.edit hw _)

/-- **Every chain watches on.** The tower that the chain was given watches the connection, and so
does the tower that the handler is given, with the layers of the chain in front. -/
theorem serve_upgrades (hstays : Script.stays script = true) (request : Request)
    (stages : List (Stage τ)) (hsound : ∀ stage ∈ stages, stage.Sound) {idle : s.Writer τ σ → Prop}
    (hwatches : Sink.Watches shielded idle taken) (hw : idle w) (world : World)
    (hanswers : ∀ stage ∈ stages, stage.answers request world.now = false) :
    ∃ e, Upgrades script (shielded || stages.any (Stage.compresses request.headers)) taken stages
      request w world e := by
  revert shielded idle taken
  -- each layer of the chain is one more in front of the sink that watches
  refine onward_induction (motive := fun stages request s w world =>
    ∀ {shielded idle taken}, Sink.Watches shielded idle taken → idle w → ∃ e,
      Upgrades script (shielded || stages.any (Stage.compresses request.headers)) taken stages
        request w world e) ?nil ?pass ?recovery ?logging ?compression hsound hanswers s w
  case nil =>
    intro request s w world shielded idle taken hwatches hw
    refine ⟨_, rfl, fun hreturned => ?_, fun hcalls hfirst hgranted => ?_⟩
    · exact (Script.follows script hstays request s w world).1.trans hreturned
    · rw [List.any_nil, Bool.or_false]
      show taken _ (Step.runAll script request s w world).writer
      rw [(Script.follows script hstays request s w world).2.1, hcalls]
      exact hwatches.performAll_taken hw hfirst hgranted
  case pass =>
    intro stage inner request s w world hstage hanswer hlayers ih shielded idle taken hwatches hw
    -- a stage that adds no layer does not compress
    have hplain : Stage.compresses request.headers stage = false := by
      cases stage <;> first | rfl | exact hlayers
    obtain ⟨e, he⟩ := ih hwatches (idle_editAll hwatches hw (stage.edits request world))
    rw [stage.completes_headers] at he
    rw [List.any_cons, hplain, Bool.false_or]
    exact ⟨e, he.pass hstage hanswer hlayers⟩
  case recovery =>
    intro inner request s w world ih shielded idle taken hwatches hw
    obtain ⟨e, he⟩ := ih (CommitLayer.watches_front hwatches) hw
    refine ⟨_, he.layer CommitLayer.inner (Recovery.leave request) rfl rfl
      (fun run hreturned => ?_) fun seen run hrun => ?_⟩
    · rw [Recovery.leave_returned request hreturned]
      exact hreturned
    · rw [leave_recovery request hrun.2]
      exact hrun.1
  case logging =>
    intro inner request s w world ih shielded idle taken hwatches hw
    obtain ⟨e, he⟩ := ih (StatusLayer.watches_front hwatches) ⟨hw, rfl⟩
    refine ⟨_, he.layer StatusLayer.inner (AccessLog.leave request world.now) rfl rfl
      (fun run hreturned => ?_) fun seen run hrun => ?_⟩
    · exact (AccessLog.leave_spec request world.now run).1.trans hreturned
    · rw [(AccessLog.leave_spec request world.now run).2.1]
      exact hrun.1
  case compression =>
    intro minSize pool inner request s w world haccepts ih shielded idle taken hwatches hw
    obtain ⟨e, he⟩ := ih (GzipLayer.watches_front hwatches) (hwatches.edit hw _)
    have hcompresses : Stage.compresses request.headers (.compression minSize pool : Stage τ)
        = true := haccepts
    rw [List.any_cons, hcompresses, Bool.true_or, Bool.or_true]
    exact ⟨_, he.layer GzipLayer.inner (fun run => (Compression.leave pool.acquire.2 run).1)
      (entry_compressing haccepts inner s w) (serve_compressing haccepts inner _ s w)
      (fun run hreturned => hreturned)
      fun seen run hrun => (leave_compression _ hrun.2).symm ▸ hrun.1⟩

/-- **What the access log says** of a connection that was taken over before the handler gave a
status. The stage that keeps the log stands over any tower, whose bottom lets go of its connection,
and around any stages of the pipeline, none of which answers the request; the handler is a script.
If it returns, so does the chain, and then one entry is logged and one request is measured.

They have the status `101` if a stage further in compresses the response. Otherwise they have the
first status that the script gives, or implies by a write, after the take-over; a flush implies
none. Only if there is none they have `101`. -/
theorem serve_logs {gone : σ → Prop} (hgone : Sink.Detaches gone) (w : s.Writer τ σ)
    (inner : List (Stage τ)) (hsound : ∀ stage ∈ inner, stage.Sound) (request : Request)
    (world : World) (hanswers : ∀ stage ∈ inner, stage.answers request world.now = false)
    (script : Script) (hstays : Script.stays script = true) :
    let layer : StatusLayer (s.Writer τ σ) := { inner := w }
    let run := (serve inner script.handler request (.status s) layer world).1
    ∃ e, entry inner request (.status s) layer world = some e ∧
      ((Script.course e.request script).ending = .returned → run.ending = .returned) ∧
      ∀ first answer later waiting,
        (Script.course e.request script).calls = first ++ .hijack answer :: later →
        (∀ call ∈ first, call.status? = none) →
        (Sink.hijack (Call.performAll first e.writer).2 answer).1 = .ok waiting →
        run.ending = .returned →
        let status := if inner.any (Stage.compresses request.headers) then 101
          else (later.findSome? (Call.given? none)).getD 101
        ∃ duration id, (serve (.logging :: inner) script.handler request s w world).1.world =
          (run.world.measure (.request request.method status duration)).log
            (.served request.method request.path status duration id) := by
  intro layer run
  obtain ⟨e, he⟩ := serve_upgrades (s := .status s) hstays request inner hsound
    (StatusLayer.watches (Stack.detaches hgone s)) (w := layer) rfl world hanswers
  refine ⟨e, he.entry, he.ends, ?_⟩
  intro first answer later waiting hcalls hfirst hgranted hreturned status
  have hstatus : run.writer.effectiveStatus = status := by
    -- a status after the take-over is latched, unless a compressing layer hides it
    rw [(he.taken hcalls hfirst hgranted).effectiveStatus, Bool.false_or]
    unfold latch
    split_ifs with hcompresses
    · exact (if_pos hcompresses).symm
    · rw [Option.none_or]
      exact (if_neg hcompresses).symm
  have hlogged : (serve (.logging :: inner) script.handler request s w world).1
      = AccessLog.leave request world.now run := rfl
  refine ⟨Duration.between world.now run.world.now, loggedId? request run.writer, ?_⟩
  rw [hlogged, ← hstatus]
  simp only [AccessLog.leave, hreturned]
  rfl

/-- A header edit and the take-over, and then a status, a write and a flush as if nothing had
happened, behind a stage that compresses. The log reports `101`. -/
theorem serve_logs_shielded :
    let inner : List (Stage Stored) := [.recovery, .compression 4 (.ofSettings 6 1)]
    let request : Request :=
      { headers := Headers.empty.insert "accept-encoding" [0x67, 0x7a, 0x69, 0x70] }
    let script : Script := [.call (.set [120] [49]), .call (.hijack [7]), .call (.status 404),
      .call (.write [1, 2, 3, 4, 5]), .call .flush]
    let served := (serve (.logging :: inner) script.handler request .bottom
      (Recorder.withConnection [1]) {}).1
    ∃ duration id, .served "GET" "/" 101 duration id ∈ served.world.events := by
  intro inner request script served
  have hsound : ∀ stage ∈ inner, stage.Sound := by
    intro stage hstage
    rcases List.mem_cons.mp hstage with rfl | hstage
    · trivial
    · rw [List.mem_singleton.mp hstage]
      exact EncoderPool.Reachable.made 6 1
  have haccepts : AcceptEncoding.requestAcceptsGzip request.headers = true := by decide +kernel
  have hanswers : ∀ stage ∈ inner, stage.answers request (0 : Int) = false := by
    simp [inner, Stage.answers]
  -- the compressing layer shields the log: no status after the take-over is noted
  obtain ⟨e, hentry, hends, hlogs⟩ := serve_logs (s := .bottom) Recorder.detaches
    (Recorder.withConnection [1]) inner hsound request {} hanswers script rfl
  simp only [inner, entry, if_pos haccepts, Option.map_some, Option.some.injEq] at hentry
  subst hentry
  obtain ⟨duration, id, hlogged⟩ := hlogs [.set [120] [49]] [7]
    [.status 404, .write [1, 2, 3, 4, 5], .flush] [1] rfl (by decide) (by rfl) (hends rfl)
  have hcompresses : inner.any (Stage.compresses request.headers) = true := by
    simp only [inner, List.any_cons, Stage.compresses, haccepts, Bool.true_or, Bool.or_true]
  rw [if_pos hcompresses] at hlogged
  refine ⟨duration, id, ?_⟩
  show _ ∈ (serve (.logging :: inner) script.handler request .bottom
    (Recorder.withConnection [1]) {}).1.world.events
  rw [hlogged]
  exact List.mem_append_right _ List.mem_cons_self

/-- **A write after the take-over**, behind no such stage. It fails and nothing is sent, and the
log reports its `200` for the connection that was taken over. -/
theorem serve_logs_late_write :
    let script : Script := [.call (.hijack []), .call (.write [1])]
    let served := (serve [(.logging : Stage Stored)] script.handler {} .bottom
      (Recorder.withConnection []) {}).1
    let sink : Recorder := served.writer
    sink.hijacked = true ∧ sink.sent = none ∧ sink.body = [] ∧
      served.world.events = [.served "GET" "/" 200 ⟨0⟩ none] := by
  decide

end Chain

end HttpPipeline
