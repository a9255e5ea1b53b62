import HttpPipeline.Response.Stack
import HttpPipeline.Proofs.Response.GzipLayer
import HttpPipeline.Proofs.Response.Invariant

/-!
# Requests of some kinds

Whoever writes a response may keep from some requests: from a flush, say, or from setting a
header. What is known then are the kinds of requests that may be made (`Requests`). A sink is
reached by requests of these kinds (`Sink.Reached`), and has every property that they do not end
(`Sink.Outlasts`).

A layer turns the requests made of it into requests of the sink below. It makes no flush and no
take-over of its own accord, and the only header edit that it adds is that of a response that is
compressed. So what outlasts the requests to a sink outlasts those to a layer around it, and by
induction those to any tower (`Stack.outlasts`). Requests may also be made of a tower some layers
further in; what a layer has if the inside has it is then so of the whole tower
(`Stack.within_induction`).
-/

namespace HttpPipeline

/-- **Kinds of requests**: which headers may be set in place of those that stand, and whether a
flush and a take-over may be asked for. A status and a write always may. -/
structure Requests where
  edit : (before after : Headers) → Prop
  flush : Prop
  hijack : Prop

namespace Requests

/-- All requests. -/
def all : Requests := ⟨fun _ _ => True, True, True⟩

/-- All that push nothing out. -/
def quiet : Requests := ⟨fun _ _ => True, False, False⟩

/-- All that leave the values of some headers as they are. -/
def sparing (names : String → Bool) : Requests :=
  ⟨fun before after => ∀ name, names name = true → after.values name = before.values name,
    True, True⟩

end Requests

namespace Sink

variable {ω : Type} [Sink ω] {kinds : Requests}

/-- **Reached by requests** of some kinds. -/
inductive Reached (kinds : Requests) (first : ω) : ω → Prop
  | refl : Reached kinds first first
  | setHeaders {w : ω} (h : Reached kinds first w) {headers : Headers}
    (hedit : kinds.edit (Sink.headers w) headers) : Reached kinds first (Sink.setHeaders w headers)
  | sendStatus {w : ω} (h : Reached kinds first w) (code : Status) :
    Reached kinds first (Sink.sendStatus w code)
  | write {w : ω} (h : Reached kinds first w) (data : Bytes) :
    Reached kinds first (Sink.write w data).2
  | flush {w : ω} (h : Reached kinds first w) (hflush : kinds.flush) :
    Reached kinds first (Sink.flush w).2
  | hijack {w : ω} (h : Reached kinds first w) (hhijack : kinds.hijack) (answer : Bytes) :
    Reached kinds first (Sink.hijack w answer).2

/-- **A property that requests of some kinds do not end.** -/
structure Outlasts (kinds : Requests) (P : ω → Prop) : Prop where
  setHeaders : ∀ {w}, P w → ∀ {headers}, kinds.edit (Sink.headers w) headers →
    P (Sink.setHeaders w headers)
  sendStatus : ∀ {w}, P w → ∀ code, P (Sink.sendStatus w code)
  write : ∀ {w}, P w → ∀ data, P (Sink.write w data).2
  flush : kinds.flush → ∀ {w}, P w → P (Sink.flush w).2
  hijack : kinds.hijack → ∀ {w}, P w → ∀ answer, P (Sink.hijack w answer).2

theorem outlasts_reached (kinds : Requests) (first : ω) : Outlasts kinds (Reached kinds first) :=
  ⟨fun h _ hedit => h.setHeaders hedit, fun h => h.sendStatus, fun h => h.write,
    fun hflush _ h => h.flush hflush, fun hhijack _ h => h.hijack hhijack⟩

namespace Outlasts

variable {P Q : ω → Prop}

theorem writes (hP : Outlasts kinds P) : OutlastsWrites P := fun _ h data => hP.write h data

/-- It holds wherever they lead. -/
theorem reached (hP : Outlasts kinds P) {first w : ω} (hfirst : P first)
    (h : Reached kinds first w) : P w := by
  induction h with
  | refl => exact hfirst
  | setHeaders _ hedit ih => exact hP.setHeaders ih hedit
  | sendStatus _ code ih => exact hP.sendStatus ih code
  | write _ data ih => exact hP.write ih data
  | flush _ hflush ih => exact hP.flush hflush ih
  | hijack _ hhijack answer ih => exact hP.hijack hhijack ih answer

/-- What is not about the sink is not ended. -/
theorem const (kinds : Requests) (p : Prop) : Outlasts kinds fun _ : ω => p :=
  ⟨fun h _ _ => h, fun h _ => h, fun h _ => h, fun _ _ h => h, fun _ _ h _ => h⟩

theorem and (hP : Outlasts kinds P) (hQ : Outlasts kinds Q) :
    Outlasts kinds fun w => P w ∧ Q w :=
  ⟨fun h _ hedit => ⟨hP.setHeaders h.1 hedit, hQ.setHeaders h.2 hedit⟩,
    fun h code => ⟨hP.sendStatus h.1 code, hQ.sendStatus h.2 code⟩,
    fun h data => ⟨hP.write h.1 data, hQ.write h.2 data⟩,
    fun hflush _ h => ⟨hP.flush hflush h.1, hQ.flush hflush h.2⟩,
    fun hhijack _ h answer => ⟨hP.hijack hhijack h.1 answer, hQ.hijack hhijack h.2 answer⟩⟩

theorem invariant (hP : Outlasts .all P) : Invariant P where
  setHeaders := fun h _ => hP.setHeaders h trivial
  sendStatus := fun h code => hP.sendStatus h code
  write := fun h data => hP.write h data
  flush := fun h => hP.flush trivial h

/-- **Any call** is made of requests. -/
theorem call (hP : Outlasts .all P) {w : ω} (h : P w) (call : Call) : P (call.perform w).2 :=
  hP.invariant.perform h call fun answer _ => hP.hijack trivial h answer

end Outlasts

theorem Reached.trans {first w later : ω} (h : Reached kinds first w)
    (h' : Reached kinds w later) : Reached kinds first later :=
  (outlasts_reached kinds first).reached h h'

namespace Fixed

variable {α : Type} {part : ω → α}

/-- **A fixed part** keeps its value under requests of all kinds. -/
theorem outlasts (hpart : Fixed part) (kinds : Requests) (a : α) :
    Outlasts kinds fun w => part w = a where
  setHeaders := fun h _ _ => (hpart.setHeaders _ _).trans h
  sendStatus := fun h code => (hpart.sendStatus _ code).trans h
  write := fun h data => (hpart.write _ data).trans h
  flush := fun _ _ h => (hpart.flush _).trans h
  hijack := fun _ _ h answer => (hpart.hijack _ answer).trans h

theorem of_outlasts (hpart : ∀ a, Outlasts .all fun w => part w = a) : Fixed part where
  setHeaders w _ := (hpart (part w)).setHeaders rfl trivial
  sendStatus w code := (hpart (part w)).sendStatus rfl code
  write w data := (hpart (part w)).write rfl data
  flush w := (hpart (part w)).flush trivial rfl
  hijack w answer := (hpart (part w)).hijack trivial rfl answer

end Fixed

end Sink

/-! ### One layer -/

section Layers

variable {ω : Type} [Sink ω] {kinds : Requests} {P : ω → Prop}

theorem StatusLayer.hijack_inner (l : StatusLayer ω) (answer : Bytes) :
    (Sink.hijack l answer).2.inner = (Sink.hijack l.inner answer).2 := by
  show (l.hijack answer).2.inner = _
  unfold StatusLayer.hijack
  split <;> rename_i heq <;> rw [heq]

theorem StatusLayer.outlasts (hP : Sink.Outlasts kinds P) :
    Sink.Outlasts kinds fun l : StatusLayer ω => P l.inner where
  setHeaders := fun h _ hedit => hP.setHeaders h hedit
  sendStatus := by
    intro l h code
    show P (l.sendStatus code).inner
    unfold StatusLayer.sendStatus
    split
    · exact h
    · exact hP.sendStatus h code
  write := by
    intro l h data
    have hwrite := hP.write h data
    show P (l.write data).2.inner
    simp only [StatusLayer.write, imply]
    split <;> rename_i heq <;> rwa [heq] at hwrite
  flush := by
    intro hflush l h
    have hbelow := hP.flush hflush h
    show P l.flush.2.inner
    unfold StatusLayer.flush
    split <;> rename_i heq <;> rw [heq] at hbelow <;> exact hbelow
  hijack := by
    intro hhijack l h answer
    rw [hijack_inner]
    exact hP.hijack hhijack h answer

theorem CommitLayer.hijack_inner (l : CommitLayer ω) (answer : Bytes) :
    (Sink.hijack l answer).2.inner = (Sink.hijack l.inner answer).2 := by
  show (l.hijack answer).2.inner = _
  unfold CommitLayer.hijack
  split <;> rename_i heq <;> rw [heq]

theorem CommitLayer.outlasts (hP : Sink.Outlasts kinds P) :
    Sink.Outlasts kinds fun l : CommitLayer ω => P l.inner where
  setHeaders := fun h _ hedit => hP.setHeaders h hedit
  sendStatus := fun h code => hP.sendStatus h code
  write := fun h data => hP.write h data
  flush := by
    intro hflush l h
    have hbelow := hP.flush hflush h
    show P l.flush.2.inner
    unfold CommitLayer.flush
    split <;> rename_i heq <;> rw [heq] at hbelow <;> exact hbelow
  hijack := by
    intro hhijack l h answer
    rw [hijack_inner]
    exact hP.hijack hhijack h answer

theorem PassLayer.outlasts (hP : Sink.Outlasts kinds P) :
    Sink.Outlasts kinds fun l : PassLayer ω => P l.inner where
  setHeaders := fun h _ hedit => hP.setHeaders h hedit
  sendStatus := fun h code => hP.sendStatus h code
  write := fun h data => hP.write h data
  flush := by
    intro hflush l h
    show P l.flush.2.inner
    unfold PassLayer.flush
    split_ifs
    · exact h
    · exact hP.flush hflush h
  hijack := by
    intro hhijack l h answer
    show P (l.hijack answer).2.inner
    unfold PassLayer.hijack
    split_ifs
    · exact h
    · exact hP.hijack hhijack h answer

namespace GzipLayer

variable {τ : Type} [MemberStream τ]

/-- The headers of a compressed response may be set. -/
def MayCompress (kinds : Requests) : Prop :=
  ∀ headers buffer, kinds.edit headers (compressedHeaders headers buffer)

theorem outlasts_release (hP : Sink.OutlastsWrites P) {l : GzipLayer τ ω} (h : P l.inner) :
    P l.release.inner := by
  unfold release
  split_ifs
  · exact h
  · simp only
    split
    · exact MemberStream.write_outlasts hP h l.stream l.buffer
    · exact hP.writeAll h l.buffer

/-- **The decision** may edit headers, gives a status and releases the buffer. -/
theorem outlasts_commit (hkinds : MayCompress kinds) (hP : Sink.Outlasts kinds P)
    {l : GzipLayer τ ω} (h : P l.inner) : P l.commit.inner := by
  unfold commit
  split
  · refine outlasts_release hP.writes (hP.sendStatus ?_ _)
    split
    · exact hP.setHeaders h (hkinds _ _)
    · exact h
  · exact h

theorem hijack_inner (l : GzipLayer τ ω) (answer : Bytes) :
    (Sink.hijack l answer).2.inner = (Sink.hijack l.inner answer).2 := by
  show (l.hijack answer).2.inner = _
  unfold GzipLayer.hijack
  split <;> rename_i heq <;> rw [heq]

theorem outlasts (hkinds : MayCompress kinds) (hP : Sink.Outlasts kinds P) :
    Sink.Outlasts kinds fun l : GzipLayer τ ω => P l.inner where
  setHeaders := fun h _ hedit => hP.setHeaders h hedit
  sendStatus := fun h _ => h
  write := by
    intro l h data
    show P (l.write data).2.inner
    unfold GzipLayer.write
    split_ifs
    · exact h
    · split
      · exact h
      · -- passed on, compressed or collected
        simp only
        split
        · exact hP.write h data
        · rw [compressOn_snd]
          exact MemberStream.write_outlasts hP.writes h (l.sendStatus 200).stream data
        · unfold collect
          simp only [report_snd]
          split_ifs
          · exact h
          · exact outlasts_commit hkinds hP h
  flush := by
    intro hflush l h
    have hcommit := outlasts_commit hkinds hP h
    show P l.flush.2.inner
    unfold GzipLayer.flush
    split_ifs
    · exact h
    · simp only
      split
      · exact hcommit
      · split
        · have hstream := MemberStream.flush_outlasts hP.writes hcommit l.commit.stream
          split
          · rename_i heq
            rwa [heq] at hstream
          · rename_i heq
            rw [heq] at hstream
            exact hP.flush hflush hstream
        · exact hP.flush hflush hcommit
  hijack := by
    intro hhijack l h answer
    rw [hijack_inner]
    exact hP.hijack hhijack h answer

end GzipLayer

end Layers

/-! ### Towers -/

/-- **What outlasts the requests** to the bottom of a tower outlasts those to the tower. -/
theorem Stack.outlasts {τ σ : Type} [MemberStream τ] [Sink σ] {kinds : Requests}
    (hkinds : GzipLayer.MayCompress kinds) {P : σ → Prop} (hP : Sink.Outlasts kinds P)
    (s : Stack) : Sink.Outlasts kinds fun w : s.Writer τ σ => P (s.base w) := by
  induction s with
  | bottom => exact hP
  | status below ih => exact StatusLayer.outlasts ih
  | commit below ih => exact CommitLayer.outlasts ih
  | pass below ih => exact PassLayer.outlasts ih
  | gzip below ih => exact GzipLayer.outlasts hkinds ih

/-- **Going behind layers.** What holds between a tower and what an action with some result makes of
it, and of a layer if it holds of what is inside, holds of a tower and what it is after the action
some layers further in. -/
theorem Stack.within_induction {τ σ ρ : Type}
    {motive : (s : Stack) → s.Writer τ σ → s.Writer τ σ → Prop}
    {action : (t : Stack) → t.Writer τ σ → ρ × t.Writer τ σ} {r : ρ}
    (here : ∀ s w, (action s w).1 = r → motive s w (action s w).2)
    (status : ∀ {below} (l : StatusLayer (Writer τ σ below)) (inner : Writer τ σ below),
      motive below l.inner inner → motive (.status below) l { l with inner })
    (commit : ∀ {below} (l : CommitLayer (Writer τ σ below)) (inner : Writer τ σ below),
      motive below l.inner inner → motive (.commit below) l { l with inner })
    (pass : ∀ {below} (l : PassLayer (Writer τ σ below)) (inner : Writer τ σ below),
      motive below l.inner inner → motive (.pass below) l { l with inner })
    (gzip : ∀ {below} (l : GzipLayer τ (Writer τ σ below)) (inner : Writer τ σ below),
      motive below l.inner inner → motive (.gzip below) l { l with inner })
    {depth : Nat} {s : Stack} {w w' : s.Writer τ σ}
    (h : within action depth s w = some (r, w')) : motive s w w' := by
  -- on the depth: one case for each kind of layer that is passed
  induction depth generalizing s with
  | zero =>
    obtain ⟨hr, rfl⟩ := Prod.mk.inj (Option.some.inj h)
    exact here s w hr
  | succ depth ih =>
    cases s with
    | bottom => exact absurd h (by simp [within])
    | status below =>
      obtain ⟨⟨_, inner⟩, hinner, heq⟩ := Option.map_eq_some_iff.mp h
      obtain ⟨rfl, rfl⟩ := Prod.mk.inj heq
      exact status _ inner (ih hinner)
    | commit below =>
      obtain ⟨⟨_, inner⟩, hinner, heq⟩ := Option.map_eq_some_iff.mp h
      obtain ⟨rfl, rfl⟩ := Prod.mk.inj heq
      exact commit _ inner (ih hinner)
    | pass below =>
      rw [within] at h
      split_ifs at h
      obtain ⟨⟨_, inner⟩, hinner, heq⟩ := Option.map_eq_some_iff.mp h
      obtain ⟨rfl, rfl⟩ := Prod.mk.inj heq
      exact pass _ inner (ih hinner)
    | gzip below =>
      obtain ⟨⟨_, inner⟩, hinner, heq⟩ := Option.map_eq_some_iff.mp h
      obtain ⟨rfl, rfl⟩ := Prod.mk.inj heq
      exact gzip _ inner (ih hinner)

end HttpPipeline
