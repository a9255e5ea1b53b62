import HttpPipeline.Serving.Script
import HttpPipeline.Proofs.Response.Calls

/-!
# What a script asks for

A script that does not go behind the layers it was given makes the same calls on every tower,
in the same order, and ends in the same way. Its `Course` is the list of these calls with the
ending: steps that are repeated stand there as often as they are taken, and what would come
after a failure does not stand there.

`Script.follows` says that running a script is carrying the calls of its course out. Hence
what is written by a script, and the first status it gives or implies, can be read off its
course (`Course.data`, `Course.status?`).
-/

namespace HttpPipeline

/-- The calls of a script and how it ends. -/
structure Course where
  calls : List Call := []
  ending : Ending := .returned
  deriving DecidableEq, Repr, Inhabited

namespace Course

/-- A course followed by another, unless it ends in a failure. -/
def andThen (c d : Course) : Course :=
  match c.ending with
  | .panicked _ => c
  | .returned => { calls := c.calls ++ d.calls, ending := d.ending }

/-- A course taken a number of times, unless it ends in a failure. -/
def iterate (c : Course) : (times : Nat) → Course
  | 0 => {}
  | times + 1 => c.andThen (c.iterate times)

/-- All that is written, if nothing is refused. -/
def data (c : Course) : Bytes := c.calls.flatMap Call.data

/-- The first status that is given or implied. -/
def status? (c : Course) : Option Status := c.calls.findSome? Call.status?

/-- Whether no interim status is given. -/
def isFinal (c : Course) : Bool := c.calls.all Call.isFinal

end Course

mutual

/-- Whether a step stays on the tower it is given. -/
def Step.stays : Step → Bool
  | .unwrap .. => false
  | .repeated _ steps => Script.stays steps
  | .attempt steps => Script.stays steps
  | _ => true

/-- Whether all steps of a script stay on the tower they are given. -/
def Script.stays : List Step → Bool
  | [] => true
  | step :: steps => step.stays && Script.stays steps

end

mutual

/-- The course of a step that stays on its tower. -/
def Step.course (request : Request) : Step → Course
  | .call asked => { calls := [asked] }
  | .echo what => { calls := [.writeAll (what.data request)] }
  | .panic payload _ => { ending := .panicked payload }
  | .repeated times steps => (Script.course request steps).iterate times
  | .attempt steps => { Script.course request steps with ending := .returned }
  | .sleep _ => {}
  | .close => {}
  | .unwrap .. => {}

/-- **The course of a script.** -/
def Script.course (request : Request) : List Step → Course
  | [] => {}
  | step :: steps => (step.course request).andThen (Script.course request steps)

end

/-! ### What does not depend on the request -/

namespace Course

/-- Two courses that may write different data but agree in all else that is said here. -/
structure Alike (c d : Course) : Prop where
  ending : c.ending = d.ending
  isFinal : c.isFinal = d.isFinal

variable {c c' d d' : Course}

theorem Alike.andThen (h : Alike c c') (h' : Alike d d') :
    Alike (c.andThen d) (c'.andThen d') := by
  unfold Course.andThen
  rw [← h.ending]
  cases c.ending with
  | panicked payload => exact h
  | returned =>
    have hfinal : c.calls.all Call.isFinal = c'.calls.all Call.isFinal := h.isFinal
    have hfinal' : d.calls.all Call.isFinal = d'.calls.all Call.isFinal := h'.isFinal
    refine ⟨h'.ending, ?_⟩
    simp only [Course.isFinal, List.all_append, hfinal, hfinal']

theorem Alike.iterate (h : Alike c c') (times : Nat) :
    Alike (c.iterate times) (c'.iterate times) := by
  induction times with
  | zero => exact ⟨rfl, rfl⟩
  | succ times ih => exact h.andThen ih

end Course

mutual

theorem Step.course_alike (request served : Request) (step : Step) :
    Course.Alike (step.course request) (step.course served) := by
  cases step with
  | repeated times steps => exact (Script.course_alike request served steps).iterate times
  | attempt steps => exact ⟨rfl, (Script.course_alike request served steps).isFinal⟩
  | _ => exact ⟨rfl, rfl⟩

/-- **How a script ends** and which kinds of statuses it gives does not depend on the request;
what it writes may. -/
theorem Script.course_alike (request served : Request) (script : List Step) :
    Course.Alike (Script.course request script) (Script.course served script) := by
  cases script with
  | nil => exact ⟨rfl, rfl⟩
  | cons step steps =>
    exact (Step.course_alike request served step).andThen
      (Script.course_alike request served steps)

end

/-! ### Running a script -/

namespace Course

variable {ω : Type} [Sink ω]

/-- **Following a course.** What is left of the tower is what the calls leave, and nothing is
measured. -/
def Follows (c : Course) (part : ω → World → Run ω) : Prop :=
  ∀ w world, (part w world).ending = c.ending ∧
    (part w world).writer = (Call.performAll c.calls w).2 ∧
    (part w world).world.measurements = world.measurements

variable {c d : Course} {part next : ω → World → Run ω}

theorem Follows.andThen (hc : Follows c part) (hd : Follows d next) :
    Follows (c.andThen d) fun w world => (part w world).andThen next := by
  intro w world
  obtain ⟨hending, hwriter, hmeasured⟩ := hc w world
  simp only [Course.andThen, Run.andThen, hending]
  cases hended : c.ending with
  | panicked payload => exact ⟨hending, hwriter, hmeasured⟩
  | returned =>
    -- the second part goes on from where the first one ended
    obtain ⟨hending', hwriter', hmeasured'⟩ := hd (part w world).writer (part w world).world
    refine ⟨hending', ?_, hmeasured'.trans hmeasured⟩
    rw [Call.performAll_append, ← hwriter]
    exact hwriter'

theorem Follows.iterate (hc : Follows c part) (times : Nat) :
    Follows (c.iterate times) (Run.iterate part times) := by
  induction times with
  | zero => exact fun w world => ⟨rfl, rfl, rfl⟩
  | succ times ih => exact hc.andThen ih

end Course

variable {τ σ : Type} [MemberStream τ] [Sink σ]

theorem World.raise_measurements (world : World) (hooked : Bool) :
    (world.raise hooked).measurements = world.measurements := by
  unfold World.raise
  split <;> rfl

mutual

/-- A step that stays on its tower follows its course. -/
theorem Step.follows (step : Step) (hstays : step.stays = true) (request : Request) (s : Stack) :
    Course.Follows (step.course request) (Step.run (τ := τ) (σ := σ) step request s) := by
  intro w world
  cases step with
  | call asked => exact ⟨rfl, rfl, rfl⟩
  | echo what => exact ⟨rfl, rfl, rfl⟩
  | sleep nanoseconds => exact ⟨rfl, rfl, rfl⟩
  | panic payload hooked => exact ⟨rfl, rfl, world.raise_measurements hooked⟩
  | repeated times steps => exact (Script.follows steps hstays request s).iterate times w world
  | unwrap depth step => exact absurd hstays Bool.false_ne_true
  | attempt steps =>
    -- a failure inside is caught, what was written stays
    obtain ⟨-, hwriter, hmeasured⟩ := Script.follows steps hstays request s w world
    exact ⟨rfl, hwriter, hmeasured⟩
  | close => exact ⟨rfl, rfl, rfl⟩

/-- **A script that stays on its tower follows its course.** -/
theorem Script.follows (script : List Step) (hstays : Script.stays script = true)
    (request : Request) (s : Stack) :
    Course.Follows (Script.course request script)
      (Step.runAll (τ := τ) (σ := σ) script request s) := by
  cases script with
  | nil => exact fun w world => ⟨rfl, rfl, rfl⟩
  | cons step steps =>
    obtain ⟨hstep, hsteps⟩ := Bool.and_eq_true_iff.mp hstays
    exact (Step.follows step hstep request s).andThen (Script.follows steps hsteps request s)

end

/-- **The ledger after a script**, on a tower that refuses nothing but a take-over. -/
theorem Script.ledger {s : Stack} {R : Ledger → s.Writer τ σ → Prop} (hR : Sink.Keeps R)
    (hW : Sink.Whole R) {w : s.Writer τ σ} (h : R {} w) (script : Script)
    (hstays : Script.stays script = true) (request : Request) (world : World) :
    ∃ k, R k (Step.runAll script request s w world).writer ∧
      k.written = (Script.course request script).data ∧
      ((Script.course request script).isFinal = true →
        k.status = (Script.course request script).status?) := by
  obtain ⟨-, hwriter, -⟩ := Script.follows script hstays request s w world
  obtain ⟨k, hk, hwritten, hstatus⟩ :=
    Call.performAll_whole hR hW (Script.course request script).calls h
  rw [hwriter]
  refine ⟨k, hk, hwritten, fun hfinal => ?_⟩
  rw [hstatus (List.all_eq_true.mp hfinal)]
  exact Option.none_or

end HttpPipeline
