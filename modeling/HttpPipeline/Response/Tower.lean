import HttpPipeline.Response.Stack

/-!
# Building towers and taking them apart

A `Tower` is a stack of layers together with the layers themselves. It is built from the
bottom up, one layer at a time, each as it is before any part of a response.

What the outermost layer of a tower remembers is its `LayerState`. `Stack.unwind` takes a
tower apart from the outside in: each layer in turn tells what it remembers and is removed.
A compression layer is ended first, in the way that is asked for: closed after a handler
that returned, abandoned after one that failed, or simply dropped.
-/

namespace HttpPipeline

/-- A layer that can be put on a tower. -/
inductive LayerKind
  | status
  | commit
  | pass (closed : Bool)
  | gzip (minSize level : Nat)
  deriving DecidableEq, Repr, Inhabited

/-- A stack of layers over a bottom. -/
structure Tower (τ σ : Type) where
  shape : Stack
  writer : shape.Writer τ σ

namespace Tower

variable {τ σ : Type} [MemberStream τ]

omit [MemberStream τ] in
/-- The bottom alone. -/
def ofBottom (bottom : σ) : Tower τ σ := ⟨.bottom, bottom⟩

/-- A tower with one more layer outside. -/
def add (t : Tower τ σ) (kind : LayerKind) : Tower τ σ :=
  match kind with
  | .status =>
    let layer : StatusLayer (t.shape.Writer τ σ) := { inner := t.writer }
    ⟨.status t.shape, layer⟩
  | .commit =>
    let layer : CommitLayer (t.shape.Writer τ σ) := { inner := t.writer }
    ⟨.commit t.shape, layer⟩
  | .pass closed =>
    let layer : PassLayer (t.shape.Writer τ σ) := { inner := t.writer, closed }
    ⟨.pass t.shape, layer⟩
  | .gzip minSize level =>
    let layer : GzipLayer τ (t.shape.Writer τ σ) :=
      .around t.writer (PooledStream.new (min level 9)) minSize
    ⟨.gzip t.shape, layer⟩

/-- A tower of layers, the innermost first. -/
def ofLayers (bottom : σ) (kinds : List LayerKind) : Tower τ σ :=
  kinds.foldl add (ofBottom bottom)

/-- What is so of the bottom alone, and of a tower with one more of some layers, is so of the tower
that is built of them. -/
theorem ofLayers_induction {motive : Tower τ σ → Prop} {bottom : σ}
    (hbottom : motive (.ofBottom bottom)) (kinds : List LayerKind)
    (hadd : ∀ t, ∀ kind ∈ kinds, motive t → motive (t.add kind)) :
    motive (ofLayers bottom kinds) := by
  have hfold (t : Tower τ σ) (ht : motive t) : motive (kinds.foldl add t) := by
    induction kinds generalizing t with
    | nil => exact ht
    | cons kind kinds ih =>
      exact ih (fun t later hlater => hadd t later (List.mem_cons_of_mem _ hlater)) _
        (hadd t kind List.mem_cons_self ht)
  exact hfold _ hbottom

end Tower

/-! ### What layers remember -/

/-- What a layer remembers. -/
inductive LayerState
  | status (status : Option Status) (effective : Status) (hijacked : Bool) (bytesWritten : Nat)
  | commit (written : Bool)
  | gzip (decision : Decision) (hijacked : Bool)
  deriving DecidableEq, Repr

/-- What a status layer remembers. -/
def StatusLayer.state {ω : Type} (l : StatusLayer ω) : LayerState :=
  .status l.status l.effectiveStatus l.hijacked l.bytesWritten

/-- What a compression layer remembers. -/
def GzipLayer.state {τ ω : Type} (l : GzipLayer τ ω) : LayerState := .gzip l.decision l.hijacked

/-- How a compression layer is ended. -/
inductive Parting
  | close
  | abandon
  | drop
  deriving DecidableEq, Repr, Inhabited

/-- A layer that was taken off. -/
structure Removed (τ : Type) where
  state : LayerState
  /-- How the end of a compression layer went, if it was closed or abandoned. -/
  result : Option (Except StreamError Unit) := none
  /-- The stream of a compression layer. -/
  stream : Option τ := none

namespace GzipLayer

variable {τ ω : Type} [MemberStream τ] [Sink ω]

/-- A compression layer, ended as is asked for. -/
def part (l : GzipLayer τ ω) (how : Parting) : Option (Except StreamError Unit) × GzipLayer τ ω :=
  match how with
  | .close =>
    let (result, l) := l.close
    (some result, l)
  | .abandon => (some (.ok ()), l.abandon)
  | .drop => (none, l)

end GzipLayer

namespace Stack

variable {τ σ : Type}

/-- What the outermost layer of a tower remembers, if it remembers anything. -/
def state? : (s : Stack) → s.Writer τ σ → Option LayerState
  | status below, w =>
    let l : StatusLayer (below.Writer τ σ) := w
    some l.state
  | commit below, w =>
    let l : CommitLayer (below.Writer τ σ) := w
    some (.commit l.written)
  | gzip below, w =>
    let l : GzipLayer τ (below.Writer τ σ) := w
    some l.state
  | bottom, _ => none
  | pass _, _ => none

variable [MemberStream τ] [Sink σ]

/-- The outermost layer is ended, if it compresses. -/
def partTop (how : Parting) :
    (s : Stack) → s.Writer τ σ → Option (Except StreamError Unit) × s.Writer τ σ
  | gzip below, w =>
    let l : GzipLayer τ (below.Writer τ σ) := w
    l.part how
  | bottom, w => (none, w)
  | status _, w => (none, w)
  | commit _, w => (none, w)
  | pass _, w => (none, w)

/-- **Taking a tower apart**, from the outside in. The compression layers are ended as is
asked for, the outermost first; one of which nothing is asked is closed. -/
def unwind : (s : Stack) → List Parting → s.Writer τ σ → List (Removed τ) × σ
  | bottom, _, w => ([], w)
  | status below, hows, w =>
    let l : StatusLayer (below.Writer τ σ) := w
    let (removed, base) := unwind below hows l.inner
    ({ state := l.state } :: removed, base)
  | commit below, hows, w =>
    let l : CommitLayer (below.Writer τ σ) := w
    let (removed, base) := unwind below hows l.inner
    ({ state := .commit l.written } :: removed, base)
  | pass below, hows, w =>
    let l : PassLayer (below.Writer τ σ) := w
    unwind below hows l.inner
  | gzip below, hows, w =>
    let l : GzipLayer τ (below.Writer τ σ) := w
    let (result, l) := l.part (hows.headD .close)
    let (removed, base) := unwind below hows.tail l.inner
    ({ state := l.state, result, stream := some l.stream } :: removed, base)

end Stack

end HttpPipeline
