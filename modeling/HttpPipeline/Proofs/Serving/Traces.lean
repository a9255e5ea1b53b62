import HttpPipeline.Proofs.Response.Requests
import HttpPipeline.Serving.Chain

/-!
# Whose trace is logged

A failure leaves a trace in the slot of its thread if it is raised through the hook, and the stage
that recovers from it takes the trace for its log entry. So an entry should have a trace if and only
if the failure was raised through the hook. What may come in between is another failure, whose
trace was never taken.

Only a handler can bring that about, by catching a failure of its own. A stage that hands a failure
on leaves the slot alone, and the stage that recovers empties it, also of the trace of a wish for
the connection to be dropped (`Recovery.leave_accounts`). So while a chain serves a request there
is nothing in the slot but the trace of the failure on its way outwards, unless something was there
before or a script has swallowed a trace (`Script.swallows`). `Run.Settles` says so, where `stale`
stands for these two cases. It is proved step by step for scripts (`Script.settles`) and, together
with what is logged, stage by stage for chains (`Chain.serve_accounts`).

`Turn.serve_tells` concludes for all requests that one thread serves one after the other. What
was swallowed does matter: `Turn.swallowed_tells` is a failure that is logged with the trace of
another one, which a handler had caught while it served an earlier request.
-/

namespace HttpPipeline

/-! ### Failures of a script -/

mutual

/-- The failures that a step may end with, and whether they are raised through the hook. -/
def Step.raises : Step → List (Panic × Bool)
  | .panic payload hooked => [(payload, hooked)]
  | .repeated _ steps => Script.raises steps
  | .unwrap _ step => step.raises
  | _ => []

/-- **The failures that a script may end with.** One that it catches is none of them. -/
def Script.raises : List Step → List (Panic × Bool)
  | [] => []
  | step :: steps => step.raises ++ Script.raises steps

end

mutual

/-- Whether a step may catch a failure that has left a trace. -/
def Step.swallows : Step → Bool
  | .attempt steps => (Script.raises steps).any Prod.snd || Script.swallows steps
  | .repeated _ steps => Script.swallows steps
  | .unwrap _ step => step.swallows
  | _ => false

/-- **Whether a script swallows a trace**: it may catch a failure that was raised through the
hook. -/
def Script.swallows : List Step → Bool
  | [] => false
  | step :: steps => step.swallows || Script.swallows steps

end

/-! ### The slot -/

/-- **A slot that tells** whether a failure was raised through the hook, unless it holds something
stale: it is filled if so, and not otherwise. -/
structure Tells (stale : Prop) (hooked traced : Bool) : Prop where
  kept : hooked = true → traced = true
  own : traced = true → hooked = true ∨ stale

theorem Tells.eq {stale : Prop} {hooked traced : Bool} (h : Tells stale hooked traced)
    (hstale : ¬stale) : traced = hooked := by
  cases hooked with
  | true => exact h.kept rfl
  | false => exact Bool.eq_false_iff.mpr fun htraced => (h.own htraced).elim nofun hstale

/-- **What a part of a request makes of the slot.** It is filled at the end if a failure is on its
way outwards that was raised through the hook, and otherwise only with something stale. -/
structure Run.Settles {ω : Type} (raises : Panic → Bool → Prop) (stale : Prop) (before : World)
    (run : Run ω) : Prop where
  watchers : run.world.watchers = before.watchers
  returned : run.ending = .returned → run.world.traced = true → stale
  panicked : ∀ payload, run.ending = .panicked payload →
    ∃ hooked, raises payload hooked ∧ Tells stale (hooked && 0 < before.watchers) run.world.traced

namespace Run.Settles

variable {ω ω' : Type} {raises raises' : Panic → Bool → Prop} {stale : Prop}
  {before before' : World} {run : Run ω} {run' : Run ω'}

theorem mono (h : run.Settles raises stale before)
    (hraises : ∀ payload hooked, raises payload hooked → raises' payload hooked) :
    run.Settles raises' stale before where
  watchers := h.watchers
  returned := h.returned
  panicked payload hending := by
    obtain ⟨hooked, hraised, htells⟩ := h.panicked payload hending
    exact ⟨hooked, hraises payload hooked hraised, htells⟩

/-- What neither ends a run in another way nor touches the slot. -/
theorem congr (h : run.Settles raises stale before) (hending : run'.ending = run.ending)
    (hwatchers : run'.world.watchers = run.world.watchers)
    (htraced : run'.world.traced = run.world.traced)
    (hbefore : before.watchers = before'.watchers) : run'.Settles raises stale before' where
  watchers := hwatchers.trans (h.watchers.trans hbefore)
  returned hreturned := by
    rw [htraced]
    exact h.returned (hending.symm.trans hreturned)
  panicked payload hpanicked := by
    rw [htraced, ← hbefore]
    exact h.panicked payload (hending.symm.trans hpanicked)

theorem of_returned {replies : List Reply} {w : ω} {world : World}
    (hwatchers : world.watchers = before.watchers) (htraced : world.traced = before.traced)
    (hfresh : before.traced = true → stale) :
    (Run.returned replies w world).Settles raises stale before where
  watchers := hwatchers
  returned _ h := hfresh (htraced.symm.trans h)
  panicked := nofun

theorem andThen {next : ω → World → Run ω} (h : run.Settles raises stale before)
    (hnext : (run.world.traced = true → stale) →
      (next run.writer run.world).Settles raises stale run.world) :
    (run.andThen next).Settles raises stale before := by
  cases hending : run.ending with
  | panicked payload =>
    rw [Run.andThen, hending]
    exact h
  | returned =>
    -- what follows starts from a slot that holds nothing but what is stale
    rw [Run.andThen, hending]
    exact (hnext (h.returned hending)).congr rfl rfl rfl h.watchers

theorem iterate {part : ω → World → Run ω}
    (hpart : ∀ w world, (world.traced = true → stale) →
      (part w world).Settles raises stale world) (times : ℕ) (w : ω) {world : World}
    (hfresh : world.traced = true → stale) :
    (Run.iterate part times w world).Settles raises stale world := by
  induction times generalizing w world with
  | zero => exact of_returned rfl rfl hfresh
  | succ times ih => exact (hpart w world hfresh).andThen fun h => ih _ h

end Run.Settles

namespace Run

variable {ω : Type}

theorem events_andThen {run : Run ω} {world : World} {next : ω → World → Run ω}
    (h : run.world.events = world.events)
    (hnext : ∀ w world, (next w world).world.events = world.events) :
    (run.andThen next).world.events = world.events := by
  unfold andThen
  split
  · exact h
  · exact (hnext _ _).trans h

theorem events_iterate {part : ω → World → Run ω}
    (hpart : ∀ w world, (part w world).world.events = world.events) (times : ℕ) (w : ω)
    (world : World) : (iterate part times w world).world.events = world.events := by
  induction times generalizing w world with
  | zero => rfl
  | succ times ih => exact events_andThen (hpart w world) ih

end Run

/-- What an action some layers further in has for a result, it has there. -/
theorem Stack.exists_of_within {τ σ ρ : Type}
    {action : (t : Stack) → t.Writer τ σ → ρ × t.Writer τ σ} {depth : ℕ} {s : Stack}
    {w w' : s.Writer τ σ} {r : ρ} (h : within action depth s w = some (r, w')) :
    ∃ (t : Stack) (v : t.Writer τ σ), (action t v).1 = r :=
  within_induction (motive := fun _ _ _ => ∃ (t : Stack) (v : t.Writer τ σ), (action t v).1 = r)
    (fun t v hr => ⟨t, v, hr⟩) (fun _ _ h => h) (fun _ _ h => h) (fun _ _ h => h) (fun _ _ h => h) h

section Scripts

variable {τ σ : Type} [MemberStream τ] [Sink σ] {stale : Prop}

mutual

theorem Step.settles (step : Step) (hswallows : step.swallows = true → stale) (request : Request)
    (s : Stack) (w : s.Writer τ σ) {world : World} (hfresh : world.traced = true → stale) :
    (step.run request s w world).Settles (fun payload hooked => (payload, hooked) ∈ step.raises)
      stale world := by
  cases step with
  | call asked => exact .of_returned rfl rfl hfresh
  | echo what => exact .of_returned rfl rfl hfresh
  | sleep nanoseconds => exact .of_returned rfl rfl hfresh
  | close => exact .of_returned rfl rfl hfresh
  | panic payload hooked =>
    refine ⟨?_, nofun, ?_⟩
    · show (world.raise hooked).watchers = _
      unfold World.raise
      split_ifs <;> rfl
    · rintro _ ⟨⟩
      refine ⟨hooked, List.mem_singleton_self _, ?_⟩
      show Tells stale _ (world.raise hooked).traced
      unfold World.raise
      -- past the hook, or without a watch, the slot stays as it was
      split_ifs with hkept
      · exact ⟨fun _ => rfl, fun _ => .inl hkept⟩
      · exact ⟨fun h => absurd h hkept, fun h => .inr (hfresh h)⟩
  | repeated times steps =>
    exact .iterate (fun v _ h => Script.settles steps hswallows request s v h) times w hfresh
  | unwrap depth step =>
    simp only [Step.run]
    split
    · rename_i hwithin
      obtain ⟨t, v, hresult⟩ := Stack.exists_of_within hwithin
      have hinside := Step.settles step hswallows request t v hfresh
      simp only [Prod.mk.injEq] at hresult
      obtain ⟨hending, -, hworld⟩ := hresult
      exact hinside.congr hending.symm (by rw [hworld]) (by rw [hworld]) rfl
    · exact .of_returned rfl rfl hfresh
  | attempt steps =>
    have hdeeper : Script.swallows steps = true → stale := fun h =>
      hswallows (by rw [Step.swallows, h, Bool.or_true])
    have hinside := Script.settles steps hdeeper request s w hfresh
    refine ⟨hinside.watchers, fun _ htraced => ?_, nofun⟩
    -- the slot is filled, be it that nothing was caught or that a failure was
    cases hending : (Step.runAll steps request s w world).ending with
    | returned => exact hinside.returned hending htraced
    | panicked payload =>
      obtain ⟨hooked, hraised, htells⟩ := hinside.panicked payload hending
      refine (htells.own htraced).elim (fun hkept => hswallows ?_) id
      have hany : (Script.raises steps).any Prod.snd = true :=
        List.any_eq_true.mpr ⟨_, hraised, (Bool.and_eq_true_iff.mp hkept).1⟩
      rw [Step.swallows, hany, Bool.true_or]

/-- **A script** leaves nothing in the slot but the trace of the failure that it ends with. -/
theorem Script.settles (script : List Step) (hswallows : Script.swallows script = true → stale)
    (request : Request) (s : Stack) (w : s.Writer τ σ) {world : World}
    (hfresh : world.traced = true → stale) :
    (Step.runAll script request s w world).Settles
      (fun payload hooked => (payload, hooked) ∈ Script.raises script) stale world := by
  cases script with
  | nil => exact .of_returned rfl rfl hfresh
  | cons step steps =>
    have hstep := Step.settles step
      (fun h => hswallows (by rw [Script.swallows, h, Bool.true_or])) request s w hfresh
    refine (hstep.mono fun _ _ h => List.mem_append_left _ h).andThen fun hmiddle => ?_
    have hsteps := Script.settles steps
      (fun h => hswallows (by rw [Script.swallows, h, Bool.or_true])) request s
      (step.run request s w world).writer hmiddle
    exact hsteps.mono fun _ _ h => List.mem_append_right _ h

end

mutual

theorem Step.events_run (step : Step) (request : Request) (s : Stack) (w : s.Writer τ σ)
    (world : World) : (step.run request s w world).world.events = world.events := by
  -- one step at a time, and the steps inside of it by the theorem about scripts
  cases step with
  | call asked => rfl
  | echo what => rfl
  | sleep nanoseconds => rfl
  | close => rfl
  | panic payload hooked =>
    show (world.raise hooked).events = _
    unfold World.raise
    split_ifs <;> rfl
  | repeated times steps =>
    exact Run.events_iterate (Script.events_run steps request s) times w world
  | unwrap depth step =>
    simp only [Step.run]
    split
    · rename_i hwithin
      obtain ⟨t, v, hresult⟩ := Stack.exists_of_within hwithin
      simp only [Prod.mk.injEq] at hresult
      rw [← hresult.2.2]
      exact Step.events_run step request t v world
    · rfl
  | attempt steps => exact Script.events_run steps request s w world

/-- A script logs nothing. -/
theorem Script.events_run (script : List Step) (request : Request) (s : Stack)
    (w : s.Writer τ σ) (world : World) :
    (Step.runAll script request s w world).world.events = world.events := by
  cases script with
  | nil => rfl
  | cons step steps =>
    exact Run.events_andThen (Step.events_run step request s w world)
      (Script.events_run steps request s)

end

end Scripts

/-! ### Entries in the log -/

/-- **An entry that tells** how the failure that it is about was raised. -/
def Event.TellsOf (raises : Panic → Bool → Prop) (stale : Prop) : Event → Prop
  | .panicRecovered message traced _ _ _ _ =>
    ∃ payload hooked, raises payload hooked ∧ payload.message = message ∧ Tells stale hooked traced
  | _ => True

/-- Between two moments, all entries tell. -/
def World.Logs (raises : Panic → Bool → Prop) (stale : Prop) (before after : World) : Prop :=
  ∃ more, after.events = before.events ++ more ∧ ∀ event ∈ more, event.TellsOf raises stale

namespace World.Logs

variable {raises : Panic → Bool → Prop} {stale : Prop} {first middle last : World}

theorem of_events (h : last.events = first.events) : Logs raises stale first last :=
  ⟨[], by rw [h, List.append_nil], by simp⟩

theorem trans (h : Logs raises stale first middle) (h' : Logs raises stale middle last) :
    Logs raises stale first last := by
  obtain ⟨more, hmore, htell⟩ := h
  obtain ⟨more', hmore', htell'⟩ := h'
  refine ⟨more ++ more', by rw [hmore', hmore, List.append_assoc], fun event hevent => ?_⟩
  exact (List.mem_append.mp hevent).elim (htell event) (htell' event)

/-- One more entry. -/
theorem log (h : Logs raises stale first middle) {event : Event}
    (hlast : last.events = middle.events ++ [event]) (hevent : event.TellsOf raises stale) :
    Logs raises stale first last :=
  h.trans ⟨[event], hlast, by simpa using hevent⟩

end World.Logs

/-! ### Through a chain -/

/-- **What may come out of a stage**: a failure as it was raised, or the wish for the connection to
be dropped, which is raised again past the hook. -/
def Outwards (raises : Panic → Bool → Prop) (payload : Panic) (hooked : Bool) : Prop :=
  raises payload hooked ∨ payload = .abort ∧ hooked = false

/-- What is known of serving a request, or a part of that: the slot and the entries tell. -/
structure Run.Accounts {ω : Type} (raises : Panic → Bool → Prop) (stale : Prop) (before : World)
    (run : Run ω) : Prop where
  settles : run.Settles (Outwards raises) stale before
  logs : World.Logs raises stale before run.world

namespace Run.Accounts

variable {ω : Type} {raises : Panic → Bool → Prop} {stale : Prop} {before before' : World}
  {run : Run ω}

/-- From an earlier moment on. -/
theorem from_earlier (h : run.Accounts raises stale before')
    (hwatchers : before'.watchers = before.watchers)
    (hlogs : World.Logs raises stale before before') :
    run.Accounts raises stale before :=
  ⟨h.settles.congr rfl rfl rfl hwatchers, hlogs.trans h.logs⟩

theorem andThen {next : ω → World → Run ω} (h : run.Accounts raises stale before)
    (hnext : (run.world.traced = true → stale) →
      (next run.writer run.world).Accounts raises stale run.world) :
    (run.andThen next).Accounts raises stale before := by
  refine ⟨h.settles.andThen fun hfresh => (hnext hfresh).settles, ?_⟩
  cases hending : run.ending with
  | panicked payload =>
    rw [Run.andThen, hending]
    exact h.logs
  | returned =>
    rw [Run.andThen, hending]
    exact h.logs.trans (hnext (h.settles.returned hending)).logs

end Run.Accounts

/-- **A script is accounted for** if its failures are among some and what it swallows is known to be
stale. -/
structure Script.Accounted (raises : Panic → Bool → Prop) (stale : Prop) (script : Script) :
    Prop where
  raised : ∀ payload hooked, (payload, hooked) ∈ Script.raises script → raises payload hooked
  swallowed : Script.swallows script = true → stale

theorem Script.Accounted.accounts {τ σ : Type} [MemberStream τ] [Sink σ]
    {raises : Panic → Bool → Prop} {stale : Prop} {script : Script}
    (h : script.Accounted raises stale) (request : Request) (s : Stack) (w : s.Writer τ σ)
    {world : World} (hfresh : world.traced = true → stale) :
    (Step.runAll script request s w world).Accounts raises stale world :=
  ⟨(Script.settles script h.swallowed request s w hfresh).mono
      fun payload hooked hraised => .inl (h.raised payload hooked hraised),
    .of_events (Script.events_run script request s w world)⟩

/-- The scripts of a stage. -/
def Stage.scripts {τ : Type} : Stage τ → List Script
  | .custom stage => [stage.before, stage.after]
  | _ => []

section Stages

variable {ω : Type} {raises : Panic → Bool → Prop} {stale : Prop} {world : World}

/-- **The stage that recovers** empties the slot, and what it logs is what it found there. -/
theorem Recovery.leave_accounts [Sink ω] (request : Request) {run : Run (CommitLayer ω)}
    (h : run.Accounts raises stale (enter world)) :
    (leave request run).Accounts raises stale world := by
  obtain ⟨⟨hwatchers, hreturned, hpanicked⟩, hlogs⟩ := h
  obtain ⟨ending, replies, writer, left⟩ := run
  have hunwatched : left.watchers - 1 = world.watchers := by
    rw [hwatchers]
    rfl
  cases ending with
  | returned => exact ⟨⟨hunwatched, fun _ => hreturned rfl, nofun⟩, hlogs⟩
  | panicked payload =>
    obtain ⟨hooked, hraised, htells⟩ := hpanicked payload rfl
    -- the stage was on watch
    rw [show decide (0 < (enter world).watchers) = true from rfl, Bool.and_true] at htells
    have hentry (hpayload : payload ≠ .abort) (method path : String) (id : Option String)
        (written : Bool) : (Event.panicRecovered payload.message left.traced method path id
          written).TellsOf raises stale :=
      ⟨payload, hooked, hraised.resolve_right fun h => hpayload h.1, rfl, htells⟩
    have hemptied : false = true → stale := nofun
    cases payload with
    | abort =>
      refine ⟨⟨hunwatched, nofun, ?_⟩, hlogs⟩
      rintro _ ⟨⟩
      exact ⟨false, .inr ⟨rfl, rfl⟩, nofun, nofun⟩
    | fixed message =>
      exact ⟨⟨hunwatched, fun _ => hemptied, nofun⟩, hlogs.log rfl (hentry nofun _ _ _ _)⟩
    | owned message =>
      exact ⟨⟨hunwatched, fun _ => hemptied, nofun⟩, hlogs.log rfl (hentry nofun _ _ _ _)⟩
    | opaqueValue value =>
      exact ⟨⟨hunwatched, fun _ => hemptied, nofun⟩, hlogs.log rfl (hentry nofun _ _ _ _)⟩

theorem AccessLog.leave_accounts [Sink ω] (request : Request) (start : Int)
    {run : Run (StatusLayer ω)} (h : run.Accounts raises stale world) :
    (leave request start run).Accounts raises stale world := by
  obtain ⟨hsettles, hlogs⟩ := h
  obtain ⟨ending, replies, writer, left⟩ := run
  cases ending with
  | returned => exact ⟨hsettles.congr rfl rfl rfl rfl, hlogs.log rfl trivial⟩
  | panicked payload => exact ⟨hsettles.congr rfl rfl rfl rfl, hlogs⟩

theorem Compression.leave_accounts {τ : Type} [MemberStream τ] [Sink ω] (pool : EncoderPool τ)
    {run : Run (GzipLayer τ ω)} (h : run.Accounts raises stale world) :
    (leave pool run).1.Accounts raises stale world := by
  obtain ⟨hsettles, hlogs⟩ := h
  obtain ⟨ending, replies, writer, left⟩ := run
  refine ⟨hsettles.congr rfl rfl rfl rfl, hlogs.trans ?_⟩
  have hquiet : World.Logs raises stale left (left.logAll []) := .of_events (List.append_nil _)
  cases ending with
  | panicked payload => exact hquiet
  | returned =>
    unfold leave settle
    rcases writer.close with ⟨cause | _, layer⟩
    · exact World.Logs.log (.of_events rfl) rfl trivial
    · exact hquiet

/-- To read a clock is nothing to anybody but those who look at clocks. -/
theorem World.afterReading_rest (world : World) (clock : Clock) :
    (world.afterReading clock).watchers = world.watchers ∧
      (world.afterReading clock).traced = world.traced ∧
      (world.afterReading clock).events = world.events := by
  unfold afterReading
  split
  · split_ifs <;> exact ⟨rfl, rfl, rfl⟩
  · exact ⟨rfl, rfl, rfl⟩

/-- A new identifier may come with an entry about a clock that went back. -/
theorem Generator.issue_tells (generator : Generator) (clock : Clock) :
    ∀ event ∈ (generator.issue clock).events, event.TellsOf raises stale := by
  show ∀ event ∈ (generator.currentTime clock).2.2.2, _
  unfold currentTime
  simp only
  split_ifs
  · exact fun event hevent => absurd hevent List.not_mem_nil
  · exact fun event hevent => absurd hevent List.not_mem_nil
  · intro event hevent
    rw [List.mem_singleton.mp hevent]
    trivial

theorem chooseId_logs (generator : Generator) (headers : Headers) :
    (chooseId generator headers world).2.2.watchers = world.watchers ∧
      (chooseId generator headers world).2.2.traced = world.traced ∧
      World.Logs raises stale world (chooseId generator headers world).2.2 := by
  unfold chooseId
  split
  · exact ⟨rfl, rfl, .of_events rfl⟩
  · obtain ⟨hwatchers, htraced, hevents⟩ :=
      world.afterReading_rest (generator.issue world.clock).clock
    exact ⟨hwatchers, htraced, _, congrArg (· ++ _) hevents, generator.issue_tells world.clock⟩

end Stages

namespace Chain

variable {τ σ : Type} [MemberStream τ] [Sink σ] {raises : Panic → Bool → Prop} {stale : Prop}

/-- **Serving a request**, with any stages, however often the one that recovers is among them. -/
theorem serve_accounts (stages : List (Stage τ))
    (hstages : ∀ stage ∈ stages, ∀ script ∈ stage.scripts, script.Accounted raises stale)
    {handler : Handler τ σ}
    (hhandler : ∀ request s w world, (world.traced = true → stale) →
      (handler request s w world).Accounts raises stale world)
    (request : Request) (s : Stack) (w : s.Writer τ σ) {world : World}
    (hfresh : world.traced = true → stale) :
    (serve stages handler request s w world).1.Accounts raises stale world := by
  induction stages generalizing request s world with
  | nil => exact hhandler request s w world hfresh
  | cons stage inner ih =>
    have hfurther := ih fun further hmem => hstages further (List.mem_cons_of_mem _ hmem)
    cases stage with
    | recovery =>
      -- any number of stages that recover may be further in
      exact Recovery.leave_accounts request (hfurther request (.commit s) _ hfresh)
    | requestId generator =>
      obtain ⟨hwatchers, htraced, hlogs⟩ : _ ∧ _ ∧ World.Logs raises stale world _ :=
        chooseId_logs generator request.headers
      exact (hfurther _ s _ fun h => hfresh (htraced.symm.trans h)).from_earlier hwatchers hlogs
    | logging => exact AccessLog.leave_accounts request _ (hfurther request (.status s) _ hfresh)
    | cors policy =>
      have hanswered (v : s.Writer τ σ) :
          (Run.returned [] v world).Accounts raises stale world :=
        ⟨.of_returned rfl rfl hfresh, .of_events rfl⟩
      simp only [serve]
      split
      · exact hfurther request s _ hfresh
      · split_ifs
        · exact hanswered _
        · exact hfurther request s _ hfresh
    | rateLimit bucket =>
      simp only [serve]
      split
      · exact hfurther request s _ hfresh
      · exact ⟨.of_returned rfl rfl hfresh, .of_events rfl⟩
    | compression minSize pool =>
      simp only [serve]
      split_ifs
      · exact Compression.leave_accounts pool.acquire.2 (hfurther request (.gzip s) _ hfresh)
      · exact hfurther request s _ hfresh
    | custom stage =>
      have hscript {script : Script} (hmem : script ∈ Stage.scripts (.custom stage : Stage τ))
          (request : Request) (v : s.Writer τ σ) {world : World}
          (hfresh : world.traced = true → stale) :
          (silently script request s v world).Accounts raises stale world :=
        have h := (hstages _ List.mem_cons_self script hmem).accounts request s v hfresh
        ⟨h.settles.congr rfl rfl rfl rfl, h.logs⟩
      have hbefore := hscript List.mem_cons_self request w hfresh
      simp only [serve]
      cases hending : (silently stage.before request s w world).ending with
      | panicked payload => exact hbefore
      | returned =>
        -- the steps before, the stages further in, and the steps after
        have hmiddle := hbefore.settles.returned hending
        refine Run.Accounts.from_earlier ?_ hbefore.settles.watchers hbefore.logs
        exact (hfurther _ s _ hmiddle).andThen fun hlast =>
          hscript (List.mem_cons_of_mem _ List.mem_cons_self) _ _ hlast

end Chain

/-! ### One request after the other -/

/-- A request that comes to a thread, with the chain that is to serve it and the time. -/
structure Turn (τ σ : Type) where
  stages : List (Stage τ)
  script : Script
  request : Request
  sink : σ
  wall : Int := 0
  now : Int := 0

namespace Turn

variable {τ σ : Type}

/-- The scripts that may be run for a request. -/
def scripts (a : Turn τ σ) : List Script := a.script :: a.stages.flatMap Stage.scripts

/-- Whether one of them swallows a trace. -/
def swallows (a : Turn τ σ) : Bool := a.scripts.any Script.swallows

variable [MemberStream τ] [Sink σ]

/-- What comes of the request. -/
def run (a : Turn τ σ) (world : World) : Run σ :=
  (Chain.serve a.stages a.script.handler a.request .bottom a.sink
    { world with wall := a.wall, now := a.now }).1

/-- The world of the thread after it. -/
def serve (a : Turn τ σ) (world : World) : World := (a.run world).world

/-- **One thread** serves requests one after the other. -/
def serveAll (turns : List (Turn τ σ)) (world : World) : World :=
  turns.foldl (fun world a => a.serve world) world

variable {stale : Prop} {world : World}

/-- What the scripts of a request raise. -/
def Raises (a : Turn τ σ) (payload : Panic) (hooked : Bool) : Prop :=
  ∃ script ∈ a.scripts, (payload, hooked) ∈ Script.raises script

/-- One request. Outside of all chains there is no watch, so nothing is left in the slot even if a
failure comes out of the chain. -/
theorem serve_settles (a : Turn τ σ) (hswallows : a.swallows = true → stale)
    (hwatchers : world.watchers = 0) (hfresh : world.traced = true → stale) :
    (a.serve world).watchers = 0 ∧ ((a.serve world).traced = true → stale) ∧
      World.Logs a.Raises stale world (a.serve world) := by
  have haccounted (script : Script) (hscript : script ∈ a.scripts) :
      script.Accounted a.Raises stale :=
    ⟨fun _ _ hraised => ⟨script, hscript, hraised⟩,
      fun h => hswallows (List.any_eq_true.mpr ⟨script, hscript, h⟩)⟩
  have hrun : (a.run world).Accounts a.Raises stale { world with wall := a.wall, now := a.now } :=
    Chain.serve_accounts a.stages
      (fun stage hstage script hscript => haccounted script
        (List.mem_cons_of_mem _ (List.mem_flatMap.mpr ⟨stage, hstage, hscript⟩)))
      (fun request s w _ h => (haccounted a.script List.mem_cons_self).accounts request s w h)
      a.request .bottom a.sink hfresh
  obtain ⟨⟨hsame, hreturned, hpanicked⟩, hlogs⟩ := hrun
  refine ⟨hsame.trans hwatchers, fun htraced => ?_, hlogs⟩
  cases hending : (a.run world).ending with
  | returned => exact hreturned hending htraced
  | panicked payload =>
    obtain ⟨hooked, -, htells⟩ := hpanicked payload hending
    -- a failure that comes out of the chain was raised without a watch
    rw [hwatchers, show decide (0 < 0) = false from rfl, Bool.and_false] at htells
    exact (htells.own htraced).resolve_left nofun

/-- Any number of requests. -/
theorem serveAll_settles (turns : List (Turn τ σ))
    (hswallows : ∀ a ∈ turns, a.swallows = true → stale) (hwatchers : world.watchers = 0)
    (hfresh : world.traced = true → stale) :
    (serveAll turns world).watchers = 0 ∧ ((serveAll turns world).traced = true → stale) := by
  induction turns generalizing world with
  | nil => exact ⟨hwatchers, hfresh⟩
  | cons a turns ih =>
    obtain ⟨hsame, hslot, -⟩ :=
      a.serve_settles (hswallows a List.mem_cons_self) hwatchers hfresh
    exact ih (fun b hb => hswallows b (List.mem_cons_of_mem _ hb)) hsame hslot

/-- **What is logged of a failure.** Let a thread serve some requests, with any chains, and then one
more. Every entry about a failure that is logged for this one is about a failure that one of its
scripts raises, and has a trace if that was raised through the hook.

If no script up to then swallows a trace, it has a trace only then, and the slot is empty after
every request. -/
theorem serve_tells (earlier : List (Turn τ σ)) (a : Turn τ σ)
    (hwatchers : world.watchers = 0) :
    let before := serveAll earlier world
    let after := a.serve before
    let clean := world.traced = false ∧ ∀ b ∈ earlier ++ [a], b.swallows = false
    ∃ more, after.events = before.events ++ more ∧
      (∀ message traced method path id written,
        .panicRecovered message traced method path id written ∈ more →
        ∃ payload hooked, a.Raises payload hooked ∧ payload.message = message ∧
          (hooked = true → traced = true) ∧ (clean → traced = hooked)) ∧
      (clean → after.traced = false) := by
  intro before after clean
  have hswallows (b : Turn τ σ) (hb : b ∈ earlier ++ [a]) (h : b.swallows = true) : ¬clean :=
    fun hclean => Bool.false_ne_true ((hclean.2 b hb).symm.trans h)
  have hfresh (h : world.traced = true) : ¬clean :=
    fun hclean => Bool.false_ne_true (hclean.1.symm.trans h)
  obtain ⟨hnone, hbefore⟩ := serveAll_settles earlier
    (fun b hb => hswallows b (List.mem_append_left _ hb)) hwatchers hfresh
  obtain ⟨-, hslot, more, hmore, htell⟩ :=
    a.serve_settles (hswallows a (List.mem_append_right _ (List.mem_singleton_self a))) hnone
      hbefore
  refine ⟨more, hmore, ?_, fun hclean => Bool.eq_false_iff.mpr fun h => hslot h hclean⟩
  intro message traced method path id written hentry
  obtain ⟨payload, hooked, hraised, hmessage, htells⟩ := htell _ hentry
  exact ⟨payload, hooked, hraised, hmessage, htells.kept,
    fun hclean => htells.eq (not_not_intro hclean)⟩

/-- **A trace that was swallowed** is logged with the next failure that has none of its own, in
another request. -/
theorem swallowed_tells :
    let serving (script : Script) : Turn Stored Recorder :=
      { stages := [.recovery], script, request := {}, sink := {} }
    let first := serving [.attempt [.panic (.fixed "caught") true], .call (.write [65])]
    let second := serving [.panic (.fixed "boom") false]
    first.swallows = true ∧
      (first.serve {}).traced = true ∧ (first.serve {}).events = [] ∧
      (second.serve {}).events = [.panicRecovered "boom" false "GET" "/" none false] ∧
      (serveAll [first, second] {}).events
        = [.panicRecovered "boom" true "GET" "/" none false] := by
  decide +kernel

end Turn

end HttpPipeline
