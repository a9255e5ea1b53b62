import HttpPipeline.Response.Layer
import HttpPipeline.Proofs.Response.Ledger

/-!
# Ledgers through the layers that look

A relation between ledgers and the states of a sink is carried over to a layer around that
sink, and what the sink owes the layer owes as well.

A commit layer changes nothing on the way, so its ledger is that of the sink below. A status
layer drops every status but the first, and what it takes for the first may not be what the
sink below does: an interim status is remembered here and may be dropped below, and a write
that has to be repeated is remembered at once. From then on only an implied `200` can settle
the status below, so that is what the response is bound to have (`StatusLayer.Relates`).
-/

namespace HttpPipeline

variable {ω : Type} {R : Ledger → ω → Prop}

namespace StatusLayer

/-- **The ledger of a status layer.** Once the layer has a status, the one below is settled
or can only become `200`. -/
def Relates (R : Ledger → ω → Prop) (k : Ledger) (l : StatusLayer ω) : Prop :=
  ∃ below, R { k with status := below } l.inner ∧
    k.status = if l.status.isSome then some (below.getD 200) else below

/-- Before the layer has a status, its ledger is that of the sink below. -/
theorem relates_of_none {k : Ledger} {l : StatusLayer ω} (hl : l.status = none) :
    Relates R k l ↔ R k l.inner := by
  constructor
  · rintro ⟨below, hbelow, hk⟩
    rw [hl, Option.isSome_none, if_neg Bool.false_ne_true] at hk
    rwa [← hk] at hbelow
  · intro h
    exact ⟨k.status, h, by rw [hl, Option.isSome_none, if_neg Bool.false_ne_true]⟩

/-- A layer that has a status, over a sink whose ledger is at hand. -/
theorem relates_of_isSome {k : Ledger} {l : StatusLayer ω} (hl : l.status.isSome)
    (h : R k l.inner) : Relates R k.settle l :=
  ⟨k.status, h, by rw [if_pos hl, Ledger.settle_status]⟩

/-- The ledger below a layer that has a status. -/
theorem Relates.below {k : Ledger} {l : StatusLayer ω} (h : Relates R k l)
    (hl : l.status.isSome) : ∃ j : Ledger, R j l.inner ∧ k = j.settle := by
  obtain ⟨below, hbelow, hk⟩ := h
  rw [if_pos hl] at hk
  exact ⟨_, hbelow, by rw [Ledger.settle, Ledger.hear, ← hk]⟩

/-- A layer around a sink of which nothing has been asked. -/
theorem relates_around {w : ω} (h : R {} w) : Relates R {} { inner := w } :=
  (relates_of_none rfl).mpr h

/-- **What is below a write.** The layer has a status, and an implied one is implied by the
write below as well. -/
theorem Relates.imply {k : Ledger} {l : StatusLayer ω} (h : Relates R k l) :
    ∃ j : Ledger, R j l.inner ∧ k.settle = j.settle := by
  cases hl : l.status with
  | none => exact ⟨k, (relates_of_none hl).mp h, rfl⟩
  | some code =>
    obtain ⟨j, hj, rfl⟩ := h.below (by rw [hl]; rfl)
    exact ⟨j, hj, rfl⟩

variable [Sink ω]

/-- **A status layer keeps the ledger** that the sink below keeps. -/
theorem keeps (hR : Sink.Keeps R) : Sink.Keeps (Relates R) where
  setHeaders := by
    rintro k l ⟨below, hbelow, hk⟩ headers
    exact ⟨below, hR.setHeaders hbelow headers, hk⟩
  sendFinal := by
    intro k l h code hcode
    show Relates R (k.hear code) (l.sendStatus code)
    unfold StatusLayer.sendStatus
    cases hl : l.status with
    | some first =>
      obtain ⟨j, hj, rfl⟩ := h.below (by rw [hl]; rfl)
      exact relates_of_isSome (by rw [hl]; rfl) hj
    | none =>
      have hinner := hR.sendFinal ((relates_of_none hl).mp h) hcode
      exact relates_of_isSome (k := k.hear code) rfl hinner
  sendInterim := by
    intro k l h code hcode
    show Relates R k (l.sendStatus code) ∨ Relates R k.settle (l.sendStatus code)
    unfold StatusLayer.sendStatus
    cases hl : l.status with
    | some first => exact .inl h
    | none =>
      -- the layer takes the interim status for the status, so no other gets below
      right
      rcases hR.sendInterim ((relates_of_none hl).mp h) hcode with hsame | hsettled
      · exact relates_of_isSome rfl hsame
      · exact relates_of_isSome (k := k.settle) rfl hsettled
  write := by
    intro k l h data
    -- what the layer took for the status may be unknown below, where the write implies one
    obtain ⟨j, hj, hsettle⟩ := h.imply
    have htaken := hR.write hj data
    show Sink.Taken (Relates R) k data (l.write data)
    rcases hwrite : Sink.write l.inner data with ⟨attempt, inner⟩
    rw [hwrite] at htaken
    simp only [StatusLayer.write, StatusLayer.imply, hwrite]
    cases attempt with
    | accepted count =>
      obtain ⟨hle, hpos, hadd⟩ := htaken
      refine ⟨hle, hpos, ?_⟩
      rw [← Ledger.settle_add, hsettle, Ledger.settle_add, ← Ledger.add_settle]
      exact relates_of_isSome rfl hadd
    | interrupted message =>
      right
      rw [hsettle]
      rcases htaken with hsame | hsettled
      · exact relates_of_isSome rfl hsame
      · exact relates_of_isSome (k := j.settle) rfl hsettled
    | failed cause => exact htaken
  flush := by
    intro k l h
    obtain ⟨j, hj, hsettle⟩ := h.imply
    have hflushed := hR.flush hj
    show Sink.Flushed (Relates R) k l.flush
    rcases hflush : Sink.flush l.inner with ⟨result, inner⟩
    rw [hflush] at hflushed
    simp only [StatusLayer.flush, hflush]
    cases result with
    | ok =>
      show Relates R k.settle _
      rw [hsettle]
      exact relates_of_isSome (k := j.settle) rfl hflushed
    | error fault =>
      show Relates R k _ ∨ Relates R k.settle _
      cases hl : l.status with
      | none =>
        -- a refused flush leaves the layer without a status
        have hflushed := hR.flush ((relates_of_none hl).mp h)
        rw [hflush] at hflushed
        rcases hflushed with hsame | hsettled
        · exact .inl ((relates_of_none rfl).mpr hsame)
        · exact .inr ((relates_of_none rfl).mpr hsettled)
      | some first =>
        right
        rw [hsettle]
        rcases hflushed with hsame | hsettled
        · exact relates_of_isSome rfl hsame
        · exact relates_of_isSome (k := j.settle) rfl hsettled

/-- A layer that was told nothing passes the first status on. -/
theorem prompt (hR : Sink.Prompt R) : Sink.Prompt (Relates R) := by
  intro l h code hcode
  show Relates R _ (l.sendStatus code)
  unfold StatusLayer.sendStatus
  cases hl : l.status with
  | some first =>
    -- the ledger would have a status
    obtain ⟨j, -, hj⟩ := h.below (by rw [hl]; rfl)
    exact absurd (congrArg Ledger.status hj) (by simp)
  | none =>
    have hinner := hR ((relates_of_none hl).mp h) hcode
    exact relates_of_isSome
      (k := { status := some code, sent := some ⟨code, Sink.headers l.inner⟩ }) rfl hinner

/-- A layer refuses nothing that the sink below does not. -/
theorem whole (hR : Sink.Whole R) : Sink.Whole (Relates R) where
  write := by
    rintro k l ⟨below, hbelow, -⟩ data
    show (l.write data).1 = _
    obtain ⟨inner, hwrite⟩ := hR.write_eq hbelow data
    simp only [StatusLayer.write, StatusLayer.imply, hwrite]
  flush := by
    rintro k l ⟨below, hbelow, -⟩
    show l.flush.1 = _
    obtain ⟨inner, hflush⟩ := hR.flush_eq hbelow
    simp only [StatusLayer.flush, hflush]
  hijack := by
    rintro k l ⟨below, hbelow, hk⟩ answer
    show (∃ fault, (l.hijack answer).1 = .error fault) ∧ Relates R k (l.hijack answer).2
    obtain ⟨fault, inner, hrefused, hkept⟩ := hR.hijack_eq hbelow answer
    simp only [StatusLayer.hijack, hrefused]
    exact ⟨⟨fault, rfl⟩, below, hkept, hk⟩

end StatusLayer

namespace CommitLayer

/-- **The ledger of a commit layer** is that of the sink below. -/
def Relates (R : Ledger → ω → Prop) (k : Ledger) (l : CommitLayer ω) : Prop := R k l.inner

/-- The ledger of the sink below, with a flag that is set when the ledger has a status. -/
def Tracks (R : Ledger → ω → Prop) (k : Ledger) (l : CommitLayer ω) : Prop :=
  R k l.inner ∧ l.written = k.status.isSome

variable [Sink ω]

/-- **A commit layer keeps the ledger** that the sink below keeps. -/
theorem keeps (hR : Sink.Keeps R) : Sink.Keeps (Relates R) where
  setHeaders := fun h headers => hR.setHeaders h headers
  sendFinal := fun h _ hcode => hR.sendFinal h hcode
  sendInterim := fun h _ hcode => hR.sendInterim h hcode
  write := by
    intro k l h data
    have htaken := hR.write h data
    show Sink.Taken (Relates R) k data (l.write data)
    rcases heq : Sink.write l.inner data with ⟨attempt, inner⟩
    rw [heq] at htaken
    simp only [CommitLayer.write, heq]
    cases attempt <;> exact htaken
  flush := by
    intro k l h
    have hflushed := hR.flush h
    show Sink.Flushed (Relates R) k l.flush
    rcases heq : Sink.flush l.inner with ⟨result, inner⟩
    rw [heq] at hflushed
    simp only [CommitLayer.flush, heq]
    cases result <;> exact hflushed

/-- A commit layer passes every status on. -/
theorem prompt (hR : Sink.Prompt R) : Sink.Prompt (Relates R) := fun _ h _ hcode => hR h hcode

/-- A layer refuses nothing that the sink below does not. -/
theorem whole (hR : Sink.Whole R) : Sink.Whole (Relates R) where
  write := fun h data => hR.write h data
  flush := by
    intro k l h
    show l.flush.1 = _
    obtain ⟨inner, hflush⟩ := hR.flush_eq h
    simp only [CommitLayer.flush, hflush]
  hijack := by
    intro k l h answer
    show (∃ fault, (l.hijack answer).1 = .error fault) ∧ Relates R k (l.hijack answer).2
    obtain ⟨fault, inner, hrefused, hkept⟩ := hR.hijack_eq h answer
    simp only [CommitLayer.hijack, hrefused]
    exact ⟨⟨fault, rfl⟩, hkept⟩

/-- **The flag keeps step** over a sink that refuses nothing and drops interim statuses. -/
theorem tracks_keeps (hR : Sink.Keeps R) (hW : Sink.Whole R)
    (hdrops : ∀ {k w}, R k w → ∀ {code}, Status.final code = false →
      R k (Sink.sendStatus w code)) : Sink.Keeps (Tracks R) where
  setHeaders := fun h headers => ⟨hR.setHeaders h.1 headers, h.2⟩
  sendFinal := by
    intro k l h code hcode
    refine ⟨hR.sendFinal h.1 hcode, ?_⟩
    show (l.written || Status.final code) = true
    rw [hcode, Bool.or_true]
  sendInterim := by
    intro k l h code hcode
    -- an interim status is dropped below and sets no flag
    refine .inl ⟨hdrops h.1 hcode, ?_⟩
    show (l.written || Status.final code) = k.status.isSome
    rw [hcode, Bool.or_false]
    exact h.2
  write := by
    intro k l h data
    have htaken := hR.write h.1 data
    show Sink.Taken (Tracks R) k data (l.write data)
    obtain ⟨w, hwrite⟩ := hW.write_eq h.1 data
    rw [hwrite] at htaken
    simp only [CommitLayer.write, hwrite]
    exact ⟨htaken.1, htaken.2.1, htaken.2.2, rfl⟩
  flush := by
    intro k l h
    have hflushed := hR.flush h.1
    show Sink.Flushed (Tracks R) k l.flush
    obtain ⟨w, hflush⟩ := hW.flush_eq h.1
    rw [hflush] at hflushed
    simp only [CommitLayer.flush, hflush]
    exact ⟨hflushed, rfl⟩

theorem tracks_prompt (hR : Sink.Prompt R) : Sink.Prompt (Tracks R) := by
  intro l h code hcode
  refine ⟨hR h.1 hcode, ?_⟩
  show (l.written || Status.final code) = true
  rw [hcode, Bool.or_true]

theorem tracks_whole (hW : Sink.Whole R) : Sink.Whole (Tracks R) where
  write := fun h data => (CommitLayer.whole hW).write (k := _) h.1 data
  flush := fun h => (CommitLayer.whole hW).flush (k := _) h.1
  hijack := by
    intro k l h answer
    obtain ⟨fault, w, hrefused, hkept⟩ := hW.hijack_eq h.1 answer
    show (∃ fault, (l.hijack answer).1 = .error fault) ∧ Tracks R k (l.hijack answer).2
    simp only [CommitLayer.hijack, hrefused]
    exact ⟨⟨fault, rfl⟩, hkept, h.2⟩

end CommitLayer

end HttpPipeline
