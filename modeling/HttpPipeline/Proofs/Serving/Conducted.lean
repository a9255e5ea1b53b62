import HttpPipeline.Proofs.Response.Alike
import HttpPipeline.Serving.Script

/-!
# Handlers that cannot look into layers

A handler that is given by its conduct sees of a tower what the replies to its requests tell. So it
does the same with two towers that no request tells apart (`Conduct.run_alike`).

Scripts are such handlers (`Script.handler_eq`). To see this, each way of putting steps together is
done with conducts: one after the other (`Conduct.andThen`), a number of times, with failures
caught, and some layers further in (`Conduct.within`).
-/

namespace HttpPipeline

/-! ### Two runs -/

/-- **The same run**: one ending, one list of replies and one world, and related writers. -/
structure Run.Alike {ω : Type} (R : ω → ω → Prop) (r r' : Run ω) : Prop where
  ending : r.ending = r'.ending
  replies : r.replies = r'.replies
  world : r.world = r'.world
  writer : R r.writer r'.writer

/-- Runs with the same writer are the same. -/
theorem Run.Alike.eq {ω : Type} {r r' : Run ω} (h : Run.Alike Eq r r') : r = r' := by
  obtain ⟨ending, replies, writer, world⟩ := r
  obtain ⟨ending', replies', writer', world'⟩ := r'
  obtain ⟨rfl, rfl, rfl, rfl⟩ := h
  rfl

namespace Conduct

variable {τ σ : Type} [MemberStream τ] [Sink σ] {T : Nat → τ → τ → Prop} {R : σ → σ → Prop}

/-- **Towers that are alike** are treated alike. -/
theorem run_alike (hT : ∀ n, MemberStream.Twins (T n)) (hR : Sink.Mirrors R) (c : Conduct)
    {s : Stack} {w w' : s.Writer τ σ} (h : s.Alike T R w w') :
    Run.Alike (s.Alike T R) (c.run s w) (c.run s w') := by
  induction c generalizing w w' with
  | ends ending replies world => exact ⟨rfl, rfl, rfl, h⟩
  | asks depth call next ih =>
    have hask := h.ask hT hR depth call
    simp only [run, hask.answer]
    exact ih _ hask.left
  | edits depth change next ih =>
    have hedit := h.edit hT hR depth change
    simp only [run, hedit.answer]
    exact ih _ hedit.left

/-! ### Putting conducts together -/

/-- A conduct after some replies were seen. -/
def after (earlier : List Reply) : Conduct → Conduct
  | ends ending replies world => ends ending (earlier ++ replies) world
  | asks depth call next => asks depth call fun reply => (next reply).after earlier
  | edits depth change next => edits depth change fun headers => (next headers).after earlier

/-- A conduct and what follows it, unless it fails. -/
def andThen (c : Conduct) (later : World → Conduct) : Conduct :=
  match c with
  | ends .returned replies world => (later world).after replies
  | ends (.panicked payload) replies world => ends (.panicked payload) replies world
  | asks depth call next => asks depth call fun reply => (next reply).andThen later
  | edits depth change next => edits depth change fun headers => (next headers).andThen later

/-- A part of a conduct, a number of times, unless it fails. -/
def iterate (part : World → Conduct) : (times : Nat) → World → Conduct
  | 0, world => ends .returned [] world
  | times + 1, world => (part world).andThen (iterate part times)

/-- A conduct whose failure is caught. -/
def caught : Conduct → Conduct
  | ends _ replies world => ends .returned replies world
  | asks depth call next => asks depth call fun reply => (next reply).caught
  | edits depth change next => edits depth change fun headers => (next headers).caught

/-- The same conduct behind one more layer. -/
def behind : Conduct → Conduct
  | ends ending replies world => ends ending replies world
  | asks depth call next => asks (depth + 1) call fun reply => (next reply).behind
  | edits depth change next => edits (depth + 1) change fun headers => (next headers).behind

/-- A conduct some layers further in, if one gets there. At each layer it is asked first whether
there is anything behind it. -/
def within (world : World) (c : Conduct) : (depth : Nat) → Conduct
  | 0 => c
  | depth + 1 =>
    asks 1 (.get []) fun
      | .noInner => ends .returned [.noInner] world
      | _ => (within world c depth).behind

theorem run_after (earlier : List Reply) (c : Conduct) (s : Stack) (w : s.Writer τ σ) :
    (c.after earlier).run s w = { c.run s w with replies := earlier ++ (c.run s w).replies } := by
  induction c generalizing w with
  | ends ending replies world => rfl
  | asks depth call next ih => exact ih _ _
  | edits depth change next ih => exact ih _ _

theorem run_andThen (c : Conduct) (later : World → Conduct) (s : Stack) (w : s.Writer τ σ) :
    (c.andThen later).run s w =
      (c.run s w).andThen fun w world => (later world).run s w := by
  induction c generalizing w with
  | ends ending replies world =>
    cases ending with
    | returned => exact run_after replies (later world) s w
    | panicked payload => rfl
  | asks depth call next ih => exact ih _ _
  | edits depth change next ih => exact ih _ _

theorem run_iterate (part : World → Conduct) (times : Nat) (s : Stack) (w : s.Writer τ σ)
    (world : World) :
    (iterate part times world).run s w =
      Run.iterate (fun w world => (part world).run s w) times w world := by
  induction times generalizing w world with
  | zero => rfl
  | succ times ih =>
    rw [iterate, run_andThen, Run.iterate]
    exact congrArg _ (funext fun w => funext fun world => ih w world)

theorem run_caught (c : Conduct) (s : Stack) (w : s.Writer τ σ) :
    c.caught.run s w = { c.run s w with ending := .returned } := by
  induction c generalizing w with
  | ends ending replies world => rfl
  | asks depth call next ih => exact ih _ _
  | edits depth change next ih => exact ih _ _

/-! ### Behind a layer -/

section Behind

/-- A tower may be put behind a layer that passes on what is asked of the tower behind it. -/
theorem run_behind {s t : Stack} (around : t.Writer τ σ → s.Writer τ σ)
    (hreach : ∀ {ρ : Type} (missing : ρ)
      (action : (s : Stack) → s.Writer τ σ → ρ × s.Writer τ σ) (depth : Nat) (v : t.Writer τ σ),
      s.reach missing action (depth + 1) (around v) =
        ((t.reach missing action depth v).1, around (t.reach missing action depth v).2))
    (c : Conduct) (v : t.Writer τ σ) :
    c.behind.run s (around v) = { c.run t v with writer := around (c.run t v).writer } := by
  induction c generalizing v with
  | ends ending replies world => rfl
  | asks depth call next ih =>
    simp only [behind, run, Stack.ask, hreach]
    exact ih _ _
  | edits depth change next ih =>
    simp only [behind, run, Stack.edit, hreach]
    exact ih _ _

variable {below : Stack}

theorem run_behind_status (c : Conduct) (l : StatusLayer (below.Writer τ σ)) :
    c.behind.run (.status below) l = { c.run below l.inner with
      writer := ({ l with inner := (c.run below l.inner).writer } : StatusLayer _) } :=
  run_behind (s := .status below) (fun inner => ({ l with inner } : StatusLayer _))
    (fun _ _ depth _ => Stack.reach_status depth _) c l.inner

theorem run_behind_commit (c : Conduct) (l : CommitLayer (below.Writer τ σ)) :
    c.behind.run (.commit below) l = { c.run below l.inner with
      writer := ({ l with inner := (c.run below l.inner).writer } : CommitLayer _) } :=
  run_behind (s := .commit below) (fun inner => ({ l with inner } : CommitLayer _))
    (fun _ _ depth _ => Stack.reach_commit depth _) c l.inner

theorem run_behind_pass (c : Conduct) (inner : below.Writer τ σ) :
    c.behind.run (.pass below) (⟨inner, false⟩ : PassLayer _) = { c.run below inner with
      writer := (⟨(c.run below inner).writer, false⟩ : PassLayer _) } :=
  run_behind (s := .pass below) (fun inner => (⟨inner, false⟩ : PassLayer _))
    (fun _ _ depth _ => Stack.reach_pass depth _) c inner

theorem run_behind_gzip (c : Conduct) (l : GzipLayer τ (below.Writer τ σ)) :
    c.behind.run (.gzip below) l = { c.run below l.inner with
      writer := ({ l with inner := (c.run below l.inner).writer } : GzipLayer τ _) } :=
  run_behind (s := .gzip below) (fun inner => ({ l with inner } : GzipLayer τ _))
    (fun _ _ depth _ => Stack.reach_gzip depth _) c l.inner

end Behind

/-- **Some layers further in**, a conduct does what it does there. -/
theorem run_within (world : World) (c : Conduct) (depth : Nat) (s : Stack) (w : s.Writer τ σ) :
    (within world c depth).run s w =
      match s.within (fun t v => (((c.run t v).ending, (c.run t v).replies, (c.run t v).world),
        (c.run t v).writer)) depth w with
      | some ((ending, replies, world), w) => { ending, replies, writer := w, world }
      | none => .returned [.noInner] w world := by
  -- on the depth; the first layer of the tower says whether one gets any further
  induction depth generalizing s with
  | zero => rfl
  | succ depth ih =>
    cases s with
    | bottom => rfl
    | status below =>
      change StatusLayer (below.Writer τ σ) at w
      have hprobe : (within world c (depth + 1)).run (.status below) w =
          (within world c depth).behind.run (.status below) w := rfl
      rw [hprobe, run_behind_status, ih]
      simp only [Stack.within]
      cases below.within _ depth w.inner <;> rfl
    | commit below =>
      change CommitLayer (below.Writer τ σ) at w
      have hprobe : (within world c (depth + 1)).run (.commit below) w =
          (within world c depth).behind.run (.commit below) w := rfl
      rw [hprobe, run_behind_commit, ih]
      simp only [Stack.within]
      cases below.within _ depth w.inner <;> rfl
    | pass below =>
      obtain ⟨inner, closed⟩ : PassLayer (below.Writer τ σ) := w
      cases closed with
      | true => rfl
      | false =>
        have hprobe : (within world c (depth + 1)).run (.pass below) ⟨inner, false⟩ =
            (within world c depth).behind.run (.pass below) ⟨inner, false⟩ := rfl
        rw [hprobe, run_behind_pass, ih]
        simp only [Stack.within, Bool.false_eq_true, if_false]
        cases below.within _ depth inner <;> rfl
    | gzip below =>
      change GzipLayer τ (below.Writer τ σ) at w
      have hprobe : (within world c (depth + 1)).run (.gzip below) w =
          (within world c depth).behind.run (.gzip below) w := rfl
      rw [hprobe, run_behind_gzip, ih]
      simp only [Stack.within]
      cases below.within _ depth w.inner <;> rfl

end Conduct

/-! ### Scripts -/

/-- How an attempt to write everything went, from the reply to it. -/
def Reply.result : Reply → Except StreamError Unit
  | .streamError cause => .error cause
  | _ => .ok ()

@[simp] theorem Reply.result_ofStream (result : Except StreamError Unit) :
    (Reply.ofStream result).result = result := by
  cases result <;> rfl

mutual

/-- What one step of a script does. -/
def Step.conduct (step : Step) (request : Request) (world : World) : Conduct :=
  match step with
  | .call asked => .asks 0 asked fun reply => .ends .returned [reply] world
  | .echo what =>
    .asks 0 (.writeAll (what.data request)) fun reply =>
      .ends .returned [.echoed (what.data request) reply.result] world
  | .sleep nanoseconds => .ends .returned [.done] (world.sleep nanoseconds)
  | .panic payload hooked => .ends (.panicked payload) [] (world.raise hooked)
  | .repeated times steps => Conduct.iterate (Step.conductAll steps request) times world
  | .unwrap depth step => Conduct.within world (Step.conduct step request world) depth
  | .attempt steps => (Step.conductAll steps request world).caught
  | .close => .ends .returned [.notGzip] world

/-- What steps do, one after the other. -/
def Step.conductAll (steps : List Step) (request : Request) (world : World) : Conduct :=
  match steps with
  | [] => .ends .returned [] world
  | step :: steps => (Step.conduct step request world).andThen (Step.conductAll steps request)

end

variable {τ σ : Type} [MemberStream τ] [Sink σ]

mutual

theorem Step.run_conduct (step : Step) (request : Request) (s : Stack) (w : s.Writer τ σ)
    (world : World) : (step.conduct request world).run s w = step.run request s w world := by
  cases step with
  | call asked => rfl
  | echo what =>
    simp only [Step.conduct, Conduct.run, Step.run]
    exact congrArg (fun result => Run.returned [.echoed _ result] _ world) (Reply.result_ofStream _)
  | sleep nanoseconds => rfl
  | panic payload hooked => rfl
  | repeated times steps =>
    rw [Step.conduct, Conduct.run_iterate, Step.run]
    exact congrArg (Run.iterate · times w world)
      (funext fun w => funext fun world => Step.run_conductAll steps request s w world)
  | unwrap depth step =>
    -- the step inside is conducted from the layer that the walk comes to
    have hwithin := Conduct.run_within world (step.conduct request world) depth s w
    simp only [Step.run_conduct step] at hwithin
    rw [Step.conduct, Step.run]
    exact hwithin
  | attempt steps =>
    rw [Step.conduct, Conduct.run_caught, Step.run_conductAll steps, Step.run]
  | close => rfl

theorem Step.run_conductAll (steps : List Step) (request : Request) (s : Stack)
    (w : s.Writer τ σ) (world : World) :
    (Step.conductAll steps request world).run s w = Step.runAll steps request s w world := by
  cases steps with
  | nil => rfl
  | cons step steps =>
    rw [Step.conductAll, Conduct.run_andThen, Step.run_conduct step, Step.runAll]
    exact congrArg _
      (funext fun w => funext fun world => Step.run_conductAll steps request s w world)

end

/-- **A script** is a handler that cannot look into layers. -/
theorem Script.handler_eq (script : Script) :
    (script.handler : Handler τ σ) = Conduct.handler (Step.conductAll script) :=
  funext fun request => funext fun s => funext fun w => funext fun world =>
    (Step.run_conductAll script request s w world).symm

end HttpPipeline
