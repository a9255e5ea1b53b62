import HttpPipeline.Proofs.Response.GzipLayer
import HttpPipeline.Proofs.Response.Layers
import HttpPipeline.Proofs.Serving.Course
import HttpPipeline.Proofs.Serving.Reach

/-!
# How a chain passes a response on

Let a script be the handler of a chain, over a tower with a ledger that it keeps. While the
script runs, every layer of the chain keeps the ledger, so at its end the outermost layer has
the ledger of the script: what it wrote and the first status it gave. The stages then take
their layers off again, and the question is what that does to the ledger of the tower below
(`Passed`).

* If the script returned, everything arrives below, as one member if the chain compressed it
  (`Coded`).
* If it failed, the tower below is left as the script left it, or the member that had been
  begun is ended. In the second case the head had been sent before, and stays as it was.

Each stage turns what is so for the stages further in into what is so for it. `serve_passed`
puts them together, by induction on the stages; the relation to the tower below is a layer
further out in each step.
-/

namespace HttpPipeline

/-! ### What arrives -/

/-- What arrives of a body, given what was measured: one member that holds it if the body was
compressed, and the body itself if not. -/
def Coded (measured : List Measurement) (plain body : Bytes) : Prop :=
  (.compression .compress ∈ measured → Member.Holds body plain) ∧
    (.compression .compress ∉ measured → body = plain)

/-- A body that was not compressed. -/
theorem coded_plain {measured : List Measurement}
    (h : .compression .compress ∉ measured) (plain : Bytes) : Coded measured plain plain :=
  ⟨fun hc => absurd hc h, fun _ => rfl⟩

/-- What else was measured does not matter. -/
theorem Coded.congr {measured measured' : List Measurement} {plain body : Bytes}
    (h : Coded measured plain body)
    (hm : .compression .compress ∈ measured' ↔ .compression .compress ∈ measured) :
    Coded measured' plain body :=
  ⟨fun hc => h.1 (hm.mp hc), fun hc => h.2 fun hc' => hc (hm.mpr hc')⟩

variable {ω ω' : Type}

/-- **After a script that returned**: its ledger has arrived. -/
def Arrived (K : Ledger) (R : Ledger → ω → Prop) (w : ω) (measured : List Measurement) : Prop :=
  ∃ k, R k w ∧ k.status.getD 200 = K.status.getD 200 ∧ Coded measured K.written k.written

/-- **After a script that failed**, from what it left to what the stages made of it. -/
inductive Stopped (K : Ledger) (R : Ledger → ω → Prop) (left w : ω)
    (measured : List Measurement) : Prop
  /-- Nothing was done. Unless nothing is known of a status, the body has arrived. -/
  | same (k : Ledger) (h : R k left) (hw : w = left)
      (hbody : k.status.isSome → Coded measured K.written k.written)
  /-- A member was ended, after the head had been sent. -/
  | ended (k k' : Ledger) (head : Head) (h : R k left) (h' : R k' w)
      (hsent : k.sent = some head) (hsent' : k'.sent = some head)
      (hbody : Coded measured K.written k'.written)

/-- **What a chain makes of a response**, given how the handler ended. -/
def Passed (ending : Ending) (K : Ledger) (R : Ledger → ω → Prop) (left w : ω)
    (measured : List Measurement) : Prop :=
  match ending with
  | .returned => Arrived K R w measured
  | .panicked _ => Stopped K R left w measured

/-- Taking a layer off leaves the body and what is known of the head. A status may be known
to the layer only, and then it is an implied `200`. -/
def Lowers (R' : Ledger → ω' → Prop) (inner : ω' → ω) (R : Ledger → ω → Prop) : Prop :=
  ∀ k l, R' k l → ∃ j, R j (inner l) ∧ j.written = k.written ∧ j.sent = k.sent ∧
    (j.status.isSome → k.status.isSome) ∧ j.status.getD 200 = k.status.getD 200

namespace Passed

variable {ending : Ending} {K : Ledger} {R : Ledger → ω → Prop} {R' : Ledger → ω' → Prop}
  {measured measured' : List Measurement}

/-- The handler's own ledger. -/
theorem of_ledger {k : Ledger} {w : ω} (h : R k w) : Passed ending k R w w [] := by
  have hplain : Coded [] k.written k.written := coded_plain List.not_mem_nil _
  cases ending with
  | returned => exact ⟨k, h, rfl, hplain⟩
  | panicked payload => exact .same k h rfl fun _ => hplain

/-- A layer is taken off. -/
theorem lower {inner : ω' → ω} (hinner : Lowers R' inner R) {left l : ω'}
    (h : Passed ending K R' left l measured) :
    Passed ending K R (inner left) (inner l) measured := by
  cases ending with
  | returned =>
    obtain ⟨k, hk, hstatus, hbody⟩ := h
    obtain ⟨j, hj, hwritten, -, -, hcode⟩ := hinner k l hk
    exact ⟨j, hj, hcode.trans hstatus, by rwa [hwritten]⟩
  | panicked payload =>
    cases h with
    | same k hk hl hbody =>
      obtain ⟨j, hj, hwritten, -, hsome, -⟩ := hinner k left hk
      exact .same j hj (by rw [hl]) fun hs => by rw [hwritten]; exact hbody (hsome hs)
    | ended k k' head hk hk' hsent hsent' hbody =>
      obtain ⟨j, hj, -, hkeep, -, -⟩ := hinner k left hk
      obtain ⟨j', hj', hwritten, hkeep', -, -⟩ := hinner k' l hk'
      exact .ended j j' head hj hj' (hkeep.trans hsent) (hkeep'.trans hsent')
        (by rwa [hwritten])

/-- Something else is measured. -/
theorem measure (hm : .compression .compress ∈ measured' ↔ .compression .compress ∈ measured)
    {left w : ω} (h : Passed ending K R left w measured) :
    Passed ending K R left w measured' := by
  cases ending with
  | returned =>
    obtain ⟨k, hk, hstatus, hbody⟩ := h
    exact ⟨k, hk, hstatus, hbody.congr hm⟩
  | panicked payload =>
    cases h with
    | same k hk hw hbody => exact .same k hk hw fun hs => (hbody hs).congr hm
    | ended k k' head hk hk' hsent hsent' hbody =>
      exact .ended k k' head hk hk' hsent hsent' (hbody.congr hm)

end Passed

theorem CommitLayer.lowers (R : Ledger → ω → Prop) :
    Lowers (CommitLayer.Relates R) CommitLayer.inner R :=
  fun k _ h => ⟨k, h, rfl, rfl, id, rfl⟩

theorem StatusLayer.lowers (R : Ledger → ω → Prop) :
    Lowers (StatusLayer.Relates R) StatusLayer.inner R := by
  rintro k l ⟨below, hbelow, hk⟩
  refine ⟨_, hbelow, rfl, rfl, fun hs => ?_, ?_⟩
  · rw [hk]
    split_ifs
    · rfl
    · exact hs
  · rw [hk]
    split_ifs <;> rfl

/-! ### The end of a compression layer -/

namespace GzipLayer

variable {ε : Type} [Deflater ε] [Sink ω] {K : Ledger} {R : Ledger → ω → Prop}
  {measured : List Measurement}

/-- **A layer is closed** after a script that returned. -/
theorem close_arrived (hε : Deflater.EndsDecodable ε) (hR : Sink.Keeps R) (hP : Sink.Prompt R)
    {l : GzipLayer (GzipStream ε) ω} (h : Arrived K (Relates R) l measured)
    (hm : .compression .compress ∉ measured) :
    ∃ l', l.close = (.ok (), l') ∧
      Arrived K R l'.inner (measured ++ l'.reported.map .compression) := by
  obtain ⟨k, hk, hstatus, hbody⟩ := h
  have hwritten := hbody.2 hm
  obtain ⟨l', hclose, hended⟩ := hk.close hε hR hP
  refine ⟨l', hclose, ?_⟩
  cases hended with
  | plain _ hreported j hj hsettle =>
    have hsame : j.written = K.written := by
      rw [← hwritten, ← Ledger.settle_written k, hsettle, Ledger.settle_written]
    have hcode : j.status.getD 200 = k.status.getD 200 :=
      (Option.some.inj (congrArg Ledger.status hsettle)).symm
    refine ⟨j, hj, hcode.trans hstatus, ?_⟩
    rw [hsame, hreported]
    exact coded_plain (by simpa using hm) _
  | member _ hreported head body hmember hj =>
    refine ⟨_, hj, hstatus, fun _ => ?_, fun hc => absurd ?_ hc⟩
    · rw [← hwritten]
      exact hmember
    · rw [hreported]
      simp

/-- **A layer is abandoned** after a script that failed. -/
theorem abandon_stopped (hε : Deflater.EndsDecodable ε) (hR : Sink.Keeps R)
    {left l : GzipLayer (GzipStream ε) ω} (h : Stopped K (Relates R) left l measured)
    (hm : .compression .compress ∉ measured) :
    Stopped K R left.inner l.abandon.inner
      (measured ++ l.abandon.reported.map .compression) := by
  cases h with
  | ended k k' head hk hk' hsent hsent' hbody =>
    -- only a layer further in could have ended a member, and the layer knows of no head
    rw [hk.sent] at hsent
    exact absurd hsent (by simp)
  | same k hk hl hbody =>
    subst hl
    rcases hk.abandon hε hR with ⟨habandon, hreported, hinner⟩ |
      ⟨habandon, hreported, j, hj, hsettle⟩ |
      ⟨hreported, hsome, head, out, body, hj, hj', hmember⟩
    · -- what the layer held back is lost, and nothing of it was sent
      rw [habandon, hreported]
      exact .same {} hinner rfl fun hs => absurd hs (by simp)
    · have hwritten := (hbody (by rw [hsettle]; rfl)).2 hm
      rw [habandon, hreported]
      refine .same j hj rfl fun _ => ?_
      rw [← Ledger.settle_written j, ← hsettle, hwritten]
      exact coded_plain (by simpa using hm) _
    · have hwritten := (hbody hsome).2 hm
      rw [hreported]
      refine .ended _ _ head hj hj' rfl rfl ⟨fun _ => ?_, fun hc => absurd (by simp) hc⟩
      rw [← hwritten]
      exact hmember

end GzipLayer

/-! ### Leaving a stage -/

section Leaving

variable [Sink ω] {ending : Ending} {K : Ledger} {R : Ledger → ω → Prop}
  {measured : List Measurement}

/-- The stage that recovers does nothing after a handler that returned. -/
theorem Recovery.leave_returned (request : Request) {run : Run (CommitLayer ω)}
    (h : run.ending = .returned) :
    Recovery.leave request run
      = { run with writer := run.writer.inner, world := unwatched run.world } := by
  obtain ⟨ending, replies, writer, world⟩ := run
  obtain rfl : ending = .returned := h
  rfl

/-- The access log takes its layer off and measures the request, if the handler returned. -/
theorem AccessLog.leave_spec (request : Request) (start : Int) (run : Run (StatusLayer ω)) :
    (AccessLog.leave request start run).ending = run.ending ∧
    (AccessLog.leave request start run).writer = run.writer.inner ∧
    ∃ more, (AccessLog.leave request start run).world.measurements
        = run.world.measurements ++ more ∧
      ∀ decision, .compression decision ∉ more := by
  obtain ⟨ending, replies, writer, world⟩ := run
  cases ending with
  | returned => exact ⟨rfl, rfl, _, rfl, by simp⟩
  | panicked payload => exact ⟨rfl, rfl, [], (List.append_nil _).symm, by simp⟩

/-- The stage that compresses ends its layer, and what was below has what it should have. -/
theorem Compression.leave_passed {ε : Type} [Deflater ε] (hε : Deflater.EndsDecodable ε)
    (hR : Sink.Keeps R) (hP : Sink.Prompt R) (pool : EncoderPool (GzipStream ε))
    {left : GzipLayer (GzipStream ε) ω} {run : Run (GzipLayer (GzipStream ε) ω)}
    (h : Passed run.ending K (GzipLayer.Relates R) left run.writer measured)
    (hm : .compression .compress ∉ measured) :
    (Compression.leave pool run).1.ending = run.ending ∧
    ∃ more, (Compression.leave pool run).1.world.measurements
        = run.world.measurements ++ more ∧
      Passed run.ending K R left.inner (Compression.leave pool run).1.writer
        (measured ++ more) := by
  obtain ⟨ending, replies, writer, world⟩ := run
  cases ending with
  | returned =>
    obtain ⟨l', hclose, harrived⟩ := GzipLayer.close_arrived hε hR hP h hm
    simp only [Compression.leave, Compression.settle, hclose]
    exact ⟨trivial, _, rfl, harrived⟩
  | panicked payload => exact ⟨rfl, _, rfl, GzipLayer.abandon_stopped hε hR h hm⟩

end Leaving

/-- Choosing an identifier measures nothing, and takes no time on the clock that is never
set. -/
theorem chooseId_world (generator : Generator) (headers : Headers) (world : World) :
    (chooseId generator headers world).2.2.now = world.now ∧
      (chooseId generator headers world).2.2.measurements = world.measurements := by
  unfold chooseId
  split
  · exact ⟨rfl, rfl⟩
  · -- a wait may move the wall clock, and nothing else here
    simp only [World.logAll, World.afterReading]
    split
    · split_ifs <;> exact ⟨rfl, rfl⟩
    · exact ⟨rfl, rfl⟩

/-! ### The stages of a chain -/

variable {ε σ : Type} [Deflater ε] [Sink σ]

/-- What a script leaves of the part of the tower that its chain was given. -/
def Entry.left {s : Stack} (e : Entry (GzipStream ε) σ s) (script : Script) :
    s.Writer (GzipStream ε) σ :=
  e.below (Step.runAll script e.request e.shape e.writer e.world).writer

namespace Chain

/-- **What serving comes to** if a script is the handler and no stage answers in its place. -/
structure Serves (ending : Ending) (script : Script) {s : Stack}
    (R : Ledger → s.Writer (GzipStream ε) σ → Prop) (stages : List (Stage (GzipStream ε)))
    (request : Request)
    (w : s.Writer (GzipStream ε) σ) (world : World) (e : Entry (GzipStream ε) σ s) (K : Ledger)
    (measured : List Measurement) : Prop where
  entry : entry stages request s w world = some e
  written : K.written = (Script.course e.request script).data
  status : (Script.course e.request script).isFinal = true →
    K.status = (Script.course e.request script).status?
  ends : (serve stages script.handler request s w world).1.ending = ending
  measures : (serve stages script.handler request s w world).1.world.measurements
    = world.measurements ++ measured
  compresses : .compression .compress ∈ measured → "compression" ∈ stages.map Stage.name
  passed : Passed ending K R (e.left script)
    (serve stages script.handler request s w world).1.writer measured

variable {ending : Ending} {script : Script} {s : Stack}
    {R : Ledger → s.Writer (GzipStream ε) σ → Prop}
  {stage : Stage (GzipStream ε)} {inner : List (Stage (GzipStream ε))} {request request' : Request}
  {w w' : s.Writer (GzipStream ε) σ} {world world' : World} {K : Ledger}
    {measured : List Measurement}

/-- A stage that only edits what it hands on. -/
theorem Serves.pass {e : Entry (GzipStream ε) σ s}
    (h : Serves ending script R inner request' w' world' e K measured)
    (hentry : Chain.entry (stage :: inner) request s w world
      = Chain.entry inner request' s w' world')
    (hserve : (serve (stage :: inner) script.handler request s w world).1
      = (serve inner script.handler request' s w' world').1)
    (hworld : world'.measurements = world.measurements) :
    Serves ending script R (stage :: inner) request w world e K measured where
  entry := hentry.trans h.entry
  written := h.written
  status := h.status
  ends := by rw [hserve]; exact h.ends
  measures := by rw [hserve, ← hworld]; exact h.measures
  compresses := fun hm => List.mem_cons_of_mem _ (h.compresses hm)
  passed := by rw [hserve]; exact h.passed

/-- A stage that puts a layer in front of the response and takes it off again. -/
theorem Serves.layer {t : Stack} {R' : Ledger → t.Writer (GzipStream ε) σ → Prop}
    {l : t.Writer (GzipStream ε) σ}
    {e : Entry (GzipStream ε) σ t}
    (h : Serves ending script R' inner request' l world' e K measured)
    {below : t.Writer (GzipStream ε) σ → s.Writer (GzipStream ε) σ} {more : List Measurement}
    (hentry : Chain.entry (stage :: inner) request s w world
      = (Chain.entry inner request' t l world').map fun e => e.through below)
    (hworld : world'.measurements = world.measurements)
    (hends : (serve (stage :: inner) script.handler request s w world).1.ending = ending)
    (hmeasures : (serve (stage :: inner) script.handler request s w world).1.world.measurements
      = (serve inner script.handler request' t l world').1.world.measurements ++ more)
    (hcompresses : .compression .compress ∈ more → stage.name = "compression")
    (hpassed : Passed ending K R (below (e.left script))
      (serve (stage :: inner) script.handler request s w world).1.writer (measured ++ more)) :
    Serves ending script R (stage :: inner) request w world (e.through below) K
      (measured ++ more) where
  entry := by rw [hentry, h.entry]; rfl
  written := h.written
  status := h.status
  ends := hends
  measures := by rw [hmeasures, h.measures, hworld, List.append_assoc]
  compresses := by
    intro hm
    rcases List.mem_append.mp hm with hm | hm
    · exact List.mem_cons_of_mem _ (h.compresses hm)
    · rw [List.map_cons, hcompresses hm]
      exact List.mem_cons_self
  passed := hpassed

/-- **The stage that recovers** does nothing after a script that returned. -/
theorem Serves.recovery {e : Entry (GzipStream ε) σ (.commit s)} (hending : ending = .returned)
    (h : Serves ending script (s := .commit s) (CommitLayer.Relates R) inner request
      ({ inner := w } : CommitLayer (s.Writer (GzipStream ε) σ))
        (Recovery.enter world) e K measured) :
    Serves ending script R (.recovery :: inner) request w world (e.through CommitLayer.inner) K
      (measured ++ []) := by
  have hleave : (serve (.recovery :: inner) script.handler request s w world).1
      = Recovery.leave request (serve inner script.handler request (.commit s)
        ({ inner := w } : CommitLayer (s.Writer (GzipStream ε) σ)) (Recovery.enter world)).1 := rfl
  rw [Recovery.leave_returned request (h.ends.trans hending)] at hleave
  refine h.layer rfl rfl ?_ ?_ (fun hm => absurd hm List.not_mem_nil) ?_
  · rw [hleave]
    exact h.ends
  · rw [hleave, List.append_nil]
    rfl
  · rw [hleave, List.append_nil]
    exact h.passed.lower (CommitLayer.lowers R)

/-- **The access log** takes note of the response. -/
theorem Serves.logging {e : Entry (GzipStream ε) σ (.status s)}
    (h : Serves ending script (s := .status s) (StatusLayer.Relates R) inner request
      ({ inner := w } : StatusLayer (s.Writer (GzipStream ε) σ)) world e K measured) :
    ∃ more, Serves ending script R (.logging :: inner) request w world
      (e.through StatusLayer.inner) K (measured ++ more) := by
  have hleave : (serve (.logging :: inner) script.handler request s w world).1
      = AccessLog.leave request world.now (serve inner script.handler request (.status s)
        ({ inner := w } : StatusLayer (s.Writer (GzipStream ε) σ)) world).1 := rfl
  obtain ⟨hends, hwriter, more, hmeasures, hnone⟩ := AccessLog.leave_spec request world.now
    (serve inner script.handler request (.status s)
      ({ inner := w } : StatusLayer (s.Writer (GzipStream ε) σ)) world).1
  refine ⟨more, h.layer rfl rfl ?_ ?_ (fun hm => absurd hm (hnone _)) ?_⟩
  · rw [hleave, hends]
    exact h.ends
  · rw [hleave, hmeasures]
  · rw [hleave, hwriter]
    refine (h.passed.lower (StatusLayer.lowers R)).measure ?_
    rw [List.mem_append, or_iff_left (hnone _)]

/-- **The stage that compresses**, when the client accepts that. -/
theorem Serves.compression (hε : Deflater.EndsDecodable ε) (hR : Sink.Keeps R)
    (hP : Sink.Prompt R) {minSize : Nat} {pool : EncoderPool (GzipStream ε)}
    {e : Entry (GzipStream ε) σ (.gzip s)}
    (hinner : "compression" ∉ inner.map Stage.name)
    (haccepts : AcceptEncoding.requestAcceptsGzip request.headers = true)
    (h : Serves ending script (s := .gzip s) (GzipLayer.Relates R) inner request
      (GzipLayer.around (Compression.announce w) pool.acquire.1 minSize) world e K measured) :
    ∃ more, Serves ending script R (.compression minSize pool :: inner) request w world
      (e.through GzipLayer.inner) K (measured ++ more) := by
  have hleave : (serve (.compression minSize pool :: inner) script.handler request s w world).1
      = (Compression.leave pool.acquire.2 (serve inner script.handler request (.gzip s)
        (GzipLayer.around (Compression.announce w) pool.acquire.1 minSize) world).1).1 := by
    simp only [serve, if_pos haccepts]
  have hpassed := h.passed
  rw [← h.ends] at hpassed
  obtain ⟨hends, more, hmeasures, hmore⟩ := Compression.leave_passed hε hR hP pool.acquire.2
    hpassed fun hm => hinner (h.compresses hm)
  refine ⟨more, h.layer ?_ rfl ?_ ?_ (fun _ => rfl) ?_⟩
  · simp only [Chain.entry, if_pos haccepts]
  · rw [hleave, hends]
    exact h.ends
  · rw [hleave, hmeasures]
  · rw [hleave, ← h.ends]
    exact hmore

/-- **Every chain passes a response on.** The handler is reached with a tower that keeps its
ledger, and what the script leaves is passed on as its ending says. Only one stage may
compress, and it needs a sink that sends the head at once. A stage that recovers is at the
outside, where there is nothing to do after a script that returned. -/
theorem serve_passed (hε : Deflater.EndsDecodable ε) (hstays : Script.stays script = true)
    (request : Request) (hending : (Script.course request script).ending = ending)
    (stages : List (Stage (GzipStream ε))) (hsound : ∀ stage ∈ stages, stage.Sound)
    (hnodup : (stages.map Stage.name).Nodup)
    (hrecovery : ending = .returned ∨ "recovery" ∉ stages.map Stage.name)
    (hR : Sink.Keeps R) (hW : Sink.Whole R)
    (hP : "compression" ∈ stages.map Stage.name → Sink.Prompt R) (h : R {} w)
    (world : World)
    (hanswers : ∀ stage ∈ stages, stage.answers request world.now = false) :
    ∃ e K measured, Serves ending script R stages request w world e K measured := by
  induction stages generalizing s R request w world with
  | nil =>
    obtain ⟨hends, -, hmeasures⟩ := Script.follows script hstays request s w world
    obtain ⟨K, hK, hwritten, hstatus⟩ := Script.ledger hR hW h script hstays request world
    exact ⟨_, K, [], rfl, hwritten, hstatus, hends.trans hending,
      hmeasures.trans (List.append_nil _).symm, fun hm => absurd hm List.not_mem_nil,
      .of_ledger hK⟩
  | cons stage inner ih =>
    obtain ⟨hfirst, hnodup'⟩ := List.nodup_cons.mp hnodup
    have hsound' : ∀ stage ∈ inner, stage.Sound :=
      fun x hx => hsound x (List.mem_cons_of_mem _ hx)
    have hrecovery' : ending = .returned ∨ "recovery" ∉ inner.map Stage.name :=
      hrecovery.imp_right fun hnot hmem => hnot (List.mem_cons_of_mem _ hmem)
    have hP' : "compression" ∈ inner.map Stage.name → Sink.Prompt R :=
      fun hmem => hP (List.mem_cons_of_mem _ hmem)
    have hanswers' : ∀ stage ∈ inner, stage.answers request world.now = false :=
      fun x hx => hanswers x (List.mem_cons_of_mem _ hx)
    have hanswer := hanswers stage List.mem_cons_self
    -- the stages further in, over the same tower with other headers
    have hinner {w' : s.Writer (GzipStream ε) σ} (h' : R {} w') :
        ∃ e K measured, Serves ending script R inner request w' world e K measured :=
      ih request hending hsound' hnodup' hrecovery' hR hW hP' h' world hanswers'
    cases stage with
    | recovery =>
      -- after a failure the stage would reply, so it may stand here only if there is none
      have hreturned : ending = .returned :=
        hrecovery.resolve_right fun hnot => hnot List.mem_cons_self
      obtain ⟨e, K, measured, hserves⟩ := ih (s := .commit s) request hending hsound' hnodup'
        hrecovery' (CommitLayer.keeps hR) (CommitLayer.whole hW)
        (fun hm => CommitLayer.prompt (hP' hm))
        (w := ({ inner := w } : CommitLayer (s.Writer (GzipStream ε) σ))) h (Recovery.enter world)
        hanswers'
      exact ⟨_, K, _, hserves.recovery hreturned⟩
    | requestId generator =>
      obtain ⟨hnow, hmeasures⟩ := chooseId_world generator request.headers world
      obtain ⟨e, K, measured, hserves⟩ := ih
        { request with id := some (chooseId generator request.headers world).1 }
        ((Script.course_alike _ _ script).ending.trans hending) hsound' hnodup' hrecovery'
        hR hW hP' (hR.editHeaders h fun h => h.insert idHeader
          (Bytes.ofString (chooseId generator request.headers world).1))
        (chooseId generator request.headers world).2.2 (by rw [hnow]; exact hanswers')
      refine ⟨e, K, measured, hserves.pass rfl ?_ hmeasures⟩
      rw [serve_requestId]
    | logging =>
      obtain ⟨e, K, measured, hserves⟩ := ih (s := .status s) request hending hsound' hnodup'
        hrecovery' (StatusLayer.keeps hR) (StatusLayer.whole hW)
        (fun hm => StatusLayer.prompt (hP' hm))
        (w := ({ inner := w } : StatusLayer (s.Writer (GzipStream ε) σ)))
          (StatusLayer.relates_around h)
        world hanswers'
      obtain ⟨more, hserves⟩ := hserves.logging
      exact ⟨_, K, _, hserves⟩
    | cors policy =>
      have hvaried : R {} (Sink.editHeaders w fun h => CorsPolicy.vary h "Origin") :=
        hR.editHeaders h _
      cases horigin : policy.allowedOrigin? request.headers with
      | none =>
        obtain ⟨e, K, measured, hserves⟩ := hinner hvaried
        refine ⟨e, K, measured, hserves.pass ?_ ?_ rfl⟩
        · simp only [Chain.entry, horigin]
        · simp only [serve, horigin]
      | some origin =>
        have hpreflight : CorsPolicy.isPreflight request.method request.headers = false := by
          simpa only [Stage.answers, horigin, Option.isSome_some, Bool.true_and] using hanswer
        obtain ⟨e, K, measured, hserves⟩ := hinner (hR.editHeaders hvaried (policy.grant origin))
        refine ⟨e, K, measured, hserves.pass ?_ ?_ rfl⟩
        · simp only [Chain.entry, horigin, hpreflight, Bool.false_eq_true, if_false]
        · simp only [serve, horigin, hpreflight, Bool.false_eq_true, if_false]
    | rateLimit bucket =>
      rcases hacquire : bucket.acquireAt world.now with ⟨admission, bucket'⟩
      have hadmitted : admission = .admitted := by
        simpa [Stage.answers, hacquire] using hanswer
      subst hadmitted
      obtain ⟨e, K, measured, hserves⟩ := hinner h
      refine ⟨e, K, measured, hserves.pass ?_ ?_ rfl⟩
      · simp only [Chain.entry, hacquire]
      · simp only [serve, hacquire]
    | compression minSize pool =>
      by_cases haccepts : AcceptEncoding.requestAcceptsGzip request.headers = true
      · -- no other stage compresses, so further in nothing has to be sent at once
        have hprompt : Sink.Prompt R := hP List.mem_cons_self
        have hpool : pool.Reachable := hsound _ List.mem_cons_self
        obtain ⟨level, hnew⟩ := hpool.acquire_new
        have hstart : GzipLayer.Relates R {}
            (GzipLayer.around (Compression.announce w) pool.acquire.1 minSize) := by
          rw [hnew]
          exact GzipLayer.relates_around (hR.editHeaders h _) level minSize
        obtain ⟨e, K, measured, hserves⟩ := ih (s := .gzip s) request hending hsound' hnodup'
          hrecovery' (GzipLayer.keeps hR hprompt) (GzipLayer.whole hR hprompt hW)
          (fun hm => absurd hm hfirst) hstart world hanswers'
        obtain ⟨more, hserves⟩ := hserves.compression hε hR hprompt hfirst haccepts
        exact ⟨_, K, _, hserves⟩
      · have hannounced : R {} (Compression.announce w) := hR.editHeaders h _
        obtain ⟨e, K, measured, hserves⟩ := hinner hannounced
        refine ⟨e, K, measured, hserves.pass ?_ ?_ rfl⟩
        · simp only [Chain.entry, if_neg haccepts]
        · simp only [serve, if_neg haccepts]
    | custom stage => exact absurd (hsound _ List.mem_cons_self) id

end Chain

end HttpPipeline
