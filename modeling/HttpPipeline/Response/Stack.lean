import HttpPipeline.Response.Call
import HttpPipeline.Response.GzipLayer
import HttpPipeline.Response.Layer

/-!
# Stacks of layers

A handler writes to a stack of layers over a bottom sink. A `Stack` is the shape of
such a tower, from the outside in; `Stack.Writer τ σ s` is a tower of that shape
over a bottom of type `σ`, with streams of type `τ` in it. Every tower is
a sink, because every layer turns a sink into a sink. Statements about every stack
are proved by induction on its shape, one layer at a time.

A layer may let itself be unwrapped. `Stack.within` reaches the tower a number of
layers further in and acts on it there, as a handler does that goes behind the
layers it was given; a closed layer cannot be unwrapped, and neither can the bottom.

A capability is looked for from the outside in (`Stack.walk`): the first layer that has
an answer gives it, a layer that has none is unwrapped, and where that cannot be done the
capability is refused. A layer with an answer may have to ask what it wraps for it, which
is a walk again. So the flush and the take-over of a tower, which every layer defines by
those of the sink below, are walks (`Stack.flush_eq_walk`, `Stack.hijack_eq_walk`).
-/

namespace HttpPipeline

/-- The shape of a tower of layers, from the outside in. -/
inductive Stack
  /-- The bottom alone. -/
  | bottom
  | status (below : Stack)
  | commit (below : Stack)
  | pass (below : Stack)
  | gzip (below : Stack)
  deriving DecidableEq, Repr, Inhabited

namespace Stack

/-- A tower of the given shape. -/
def Writer (τ σ : Type) : Stack → Type
  | bottom => σ
  | status below => StatusLayer (Writer τ σ below)
  | commit below => CommitLayer (Writer τ σ below)
  | pass below => PassLayer (Writer τ σ below)
  | gzip below => GzipLayer τ (Writer τ σ below)

/-- A tower is a sink, layer by layer. -/
@[reducible] def sink (τ σ : Type) [MemberStream τ] [Sink σ] : (s : Stack) → Sink (Writer τ σ s)
  | bottom => inferInstanceAs (Sink σ)
  | status below =>
    letI := sink τ σ below
    inferInstanceAs (Sink (StatusLayer (Writer τ σ below)))
  | commit below =>
    letI := sink τ σ below
    inferInstanceAs (Sink (CommitLayer (Writer τ σ below)))
  | pass below =>
    letI := sink τ σ below
    inferInstanceAs (Sink (PassLayer (Writer τ σ below)))
  | gzip below =>
    letI := sink τ σ below
    inferInstanceAs (Sink (GzipLayer τ (Writer τ σ below)))

instance {τ σ : Type} [MemberStream τ] [Sink σ] (s : Stack) : Sink (Writer τ σ s) := sink τ σ s

variable {τ σ ρ : Type}

/-- The bottom of a tower. -/
def base : (s : Stack) → Writer τ σ s → σ
  | bottom, w => w
  | status below, w => base below (StatusLayer.inner w)
  | commit below, w => base below (CommitLayer.inner w)
  | pass below, w => base below (PassLayer.inner w)
  | gzip below, w => base below (GzipLayer.inner w)

/-- A tower whose bottom was acted upon. -/
def onBase (f : σ → σ) : (s : Stack) → Writer τ σ s → Writer τ σ s
  | bottom, w => f w
  | status below, w =>
    { (w : StatusLayer (Writer τ σ below)) with inner := onBase f below (StatusLayer.inner w) }
  | commit below, w =>
    { (w : CommitLayer (Writer τ σ below)) with inner := onBase f below (CommitLayer.inner w) }
  | pass below, w =>
    { (w : PassLayer (Writer τ σ below)) with inner := onBase f below (PassLayer.inner w) }
  | gzip below, w =>
    { (w : GzipLayer τ (Writer τ σ below)) with inner := onBase f below (GzipLayer.inner w) }

/-- **Going behind layers.** `action` is carried out on the tower `depth` layers
further in, if one gets there. -/
def within (action : (s : Stack) → Writer τ σ s → ρ × Writer τ σ s) :
    (depth : Nat) → (s : Stack) → Writer τ σ s → Option (ρ × Writer τ σ s)
  | 0, s, w => some (action s w)
  | _ + 1, bottom, _ => none
  | depth + 1, status below, w =>
    (within action depth below (StatusLayer.inner w)).map fun (r, inner) =>
      (r, { (w : StatusLayer (Writer τ σ below)) with inner })
  | depth + 1, commit below, w =>
    (within action depth below (CommitLayer.inner w)).map fun (r, inner) =>
      (r, { (w : CommitLayer (Writer τ σ below)) with inner })
  | depth + 1, pass below, w =>
    if PassLayer.closed w then none
    else
      (within action depth below (PassLayer.inner w)).map fun (r, inner) =>
        (r, { (w : PassLayer (Writer τ σ below)) with inner })
  | depth + 1, gzip below, w =>
    (within action depth below (GzipLayer.inner w)).map fun (r, inner) =>
      (r, { (w : GzipLayer τ (Writer τ σ below)) with inner })

/-- The same, with a result that is given if one does not get there. -/
def reach (missing : ρ) (action : (s : Stack) → Writer τ σ s → ρ × Writer τ σ s) (depth : Nat)
    (s : Stack) (w : Writer τ σ s) : ρ × Writer τ σ s :=
  (within action depth s w).getD (missing, w)

section Reach

variable {missing : ρ} {action : (s : Stack) → Writer τ σ s → ρ × Writer τ σ s} {below : Stack}

@[simp] theorem reach_zero (s : Stack) (w : Writer τ σ s) :
    reach missing action 0 s w = action s w := rfl

@[simp] theorem reach_bottom (depth : Nat) (w : σ) :
    reach missing action (depth + 1) bottom w = (missing, w) := rfl

@[simp] theorem reach_status (depth : Nat) (l : StatusLayer (Writer τ σ below)) :
    reach missing action (depth + 1) (status below) l =
      ((reach missing action depth below l.inner).1,
        { l with inner := (reach missing action depth below l.inner).2 }) := by
  simp only [reach, within]
  cases within action depth below l.inner <;> rfl

@[simp] theorem reach_commit (depth : Nat) (l : CommitLayer (Writer τ σ below)) :
    reach missing action (depth + 1) (commit below) l =
      ((reach missing action depth below l.inner).1,
        { l with inner := (reach missing action depth below l.inner).2 }) := by
  simp only [reach, within]
  cases within action depth below l.inner <;> rfl

@[simp] theorem reach_pass (depth : Nat) (l : PassLayer (Writer τ σ below)) :
    reach missing action (depth + 1) (pass below) l =
      if l.closed then (missing, l)
      else ((reach missing action depth below l.inner).1,
        { l with inner := (reach missing action depth below l.inner).2 }) := by
  simp only [reach, within]
  split
  · rfl
  · cases within action depth below l.inner <;> rfl

@[simp] theorem reach_gzip (depth : Nat) (l : GzipLayer τ (Writer τ σ below)) :
    reach missing action (depth + 1) (gzip below) l =
      ((reach missing action depth below l.inner).1,
        { l with inner := (reach missing action depth below l.inner).2 }) := by
  simp only [reach, within]
  cases within action depth below l.inner <;> rfl

end Reach

/-- **A call some layers further in**, if one gets there. -/
def ask [MemberStream τ] [Sink σ] (depth : Nat) (call : Call) (s : Stack) (w : Writer τ σ s) :
    Reply × Writer τ σ s :=
  reach .noInner (fun _ inside => call.perform inside) depth s w

/-- **An edit of the headers some layers further in**, if one gets there. What is seen of it are
the headers before the edit. -/
def edit [MemberStream τ] [Sink σ] (depth : Nat) (change : Headers → Headers) (s : Stack)
    (w : Writer τ σ s) : Option Headers × Writer τ σ s :=
  reach none (fun _ inside => (some (Sink.headers inside), Sink.editHeaders inside change))
    depth s w

/-! ### Looking for a capability -/

/-- **The walk** that looks for a capability. `attempt?` is what the outermost layer of a tower
answers itself. -/
def walk (refusal : Fault)
    (attempt? : (s : Stack) → Writer τ σ s → Option (Except Fault ρ × Writer τ σ s)) :
    (s : Stack) → Writer τ σ s → Except Fault ρ × Writer τ σ s
  | bottom, w => (attempt? bottom w).getD (.error refusal, w)
  | status below, w =>
    (attempt? (status below) w).getD
      (let (r, inner) := walk refusal attempt? below (StatusLayer.inner w)
      (r, { (w : StatusLayer (Writer τ σ below)) with inner }))
  | commit below, w =>
    (attempt? (commit below) w).getD
      (let (r, inner) := walk refusal attempt? below (CommitLayer.inner w)
      (r, { (w : CommitLayer (Writer τ σ below)) with inner }))
  | pass below, w =>
    (attempt? (pass below) w).getD
      (if PassLayer.closed w then (.error refusal, w)
      else
        let (r, inner) := walk refusal attempt? below (PassLayer.inner w)
        (r, { (w : PassLayer (Writer τ σ below)) with inner }))
  | gzip below, w =>
    (attempt? (gzip below) w).getD
      (let (r, inner) := walk refusal attempt? below (GzipLayer.inner w)
      (r, { (w : GzipLayer τ (Writer τ σ below)) with inner }))

variable [MemberStream τ] [Sink σ]

/-- A flush at the level of the outermost layer. One without a memory has no answer. -/
def tryFlush? : (s : Stack) → Writer τ σ s → Option (Except Fault Unit × Writer τ σ s)
  | bottom, w => some (Sink.flush (σ := σ) w)
  | status below, w => some (StatusLayer.flush (σ := Writer τ σ below) w)
  | commit below, w => some (CommitLayer.flush (σ := Writer τ σ below) w)
  | pass _, _ => none
  | gzip below, w => some (GzipLayer.flush (σ := Writer τ σ below) w)

/-- A take-over at the level of the outermost layer. -/
def tryHijack? (answer : Bytes) :
    (s : Stack) → Writer τ σ s → Option (Except Fault Bytes × Writer τ σ s)
  | bottom, w => some (Sink.hijack (σ := σ) w answer)
  | status below, w => some (StatusLayer.hijack (σ := Writer τ σ below) w answer)
  | commit below, w => some (CommitLayer.hijack (σ := Writer τ σ below) w answer)
  | pass _, _ => none
  | gzip below, w => some (GzipLayer.hijack (σ := Writer τ σ below) w answer)

/-- **A flush of a tower** is a walk. -/
theorem flush_eq_walk (s : Stack) (w : s.Writer τ σ) :
    Sink.flush w = s.walk .flushNotSupported tryFlush? w := by
  induction s with
  | bottom => rfl
  | status below => rfl
  | commit below => rfl
  | pass below ih =>
    -- an open layer hands on what the walk below comes to
    let onward (r : Except Fault Unit × Writer τ σ below) :
        Except Fault Unit × PassLayer (Writer τ σ below) :=
      if PassLayer.closed w then (.error .flushNotSupported, w)
      else (r.1, { (w : PassLayer (Writer τ σ below)) with inner := r.2 })
    exact congrArg onward (ih (PassLayer.inner w))
  | gzip below => rfl

/-- **A take-over of a tower** is a walk. -/
theorem hijack_eq_walk (s : Stack) (w : s.Writer τ σ) (answer : Bytes) :
    Sink.hijack w answer = s.walk .hijackNotSupported (tryHijack? answer) w := by
  induction s with
  | bottom => rfl
  | status below => rfl
  | commit below => rfl
  | pass below ih =>
    -- an open layer hands on what the walk below comes to
    let onward (r : Except Fault Bytes × Writer τ σ below) :
        Except Fault Bytes × PassLayer (Writer τ σ below) :=
      if PassLayer.closed w then (.error .hijackNotSupported, w)
      else (r.1, { (w : PassLayer (Writer τ σ below)) with inner := r.2 })
    exact congrArg onward (ih (PassLayer.inner w))
  | gzip below => rfl

end Stack

end HttpPipeline
