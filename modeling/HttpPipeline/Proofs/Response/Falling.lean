import HttpPipeline.Proofs.Response.TakeOver

/-!
# What a decision does to the sink below

A compression layer asks the sink below for nothing until its decision falls. Then it edits the
headers if it compresses, gives the status, and writes what it held back (`GzipLayer.commit_below`).
From that moment on it gives no status any more: all it asks for are writes, flushes and take-overs,
and header edits that are made through it. So a property of the sink below that only a status can
end outlasts everything that is asked of a decided layer (`write_below` and the lemmas after it).

What is known of the sink below may be one thing while the layer waits, and another after each of
the two decisions (`GzipLayer.Phased`). Each of the three has to outlast what is asked of the sink
in its phase, and the decision has to lead from the first to the others
(`GzipLayer.outlasts_phased`).
-/

namespace HttpPipeline.GzipLayer

variable {τ ω : Type} [MemberStream τ] [Sink ω] {P : ω → Prop} {l : GzipLayer τ ω}

/-! ### The moment -/

omit [MemberStream τ] in
/-- The decision that is due, by what the layer holds and the headers that stand. -/
def due (l : GzipLayer τ ω) : Decision :=
  decide (Sink.headers l.inner) (l.status.getD 200) l.minSize l.buffer

omit [MemberStream τ] in
/-- The sink below when its headers are right for the decision. -/
def dressed (l : GzipLayer τ ω) : ω :=
  match l.due with
  | .compress => Sink.setHeaders l.inner (compressedHeaders (Sink.headers l.inner) l.buffer)
  | _ => l.inner

omit [MemberStream τ] in
theorem due_ne_pending (l : GzipLayer τ ω) : l.due ≠ .pending := by
  unfold due
  rcases decide_cases (Sink.headers l.inner) (l.status.getD 200) l.minSize l.buffer
    with hskip | ⟨hcompress, -⟩
  · simp [hskip]
  · simp [hcompress]

/-- **The decision falls** as it is due. What a status makes of the dressed sink, and no write
ends, is so of the sink below. -/
theorem commit_below (hP : Sink.OutlastsWrites P) (hd : l.decision = .pending)
    (h : P (Sink.sendStatus l.dressed (l.status.getD 200))) :
    l.commit.decision = l.due ∧ P l.commit.inner := by
  unfold commit
  rw [hd]
  exact ⟨release_decision _, outlasts_release hP h⟩

/-! ### After the moment -/

theorem write_below (hP : Sink.OutlastsWrites P) (hd : l.decision ≠ .pending) (h : P l.inner)
    (data : Bytes) : (l.write data).2.decision = l.decision ∧ P (l.write data).2.inner := by
  unfold GzipLayer.write
  split_ifs
  · exact ⟨rfl, h⟩
  · split
    · exact ⟨rfl, h⟩
    · simp only
      split
      · exact ⟨rfl, hP h data⟩
      · rw [compressOn_snd]
        exact ⟨rfl, MemberStream.write_outlasts hP h (l.sendStatus 200).stream data⟩
      · rename_i hpending
        exact absurd hpending hd

theorem flush_below (hP : Sink.OutlastsWrites P) (hflush : ∀ {w}, P w → P (Sink.flush w).2)
    (hd : l.decision ≠ .pending) (h : P l.inner) :
    l.flush.2.decision = l.decision ∧ P l.flush.2.inner := by
  unfold GzipLayer.flush
  rw [commit_of_ne hd]
  split_ifs
  · exact ⟨rfl, h⟩
  · simp only
    split
    · exact ⟨rfl, h⟩
    · split
      · have hstream := MemberStream.flush_outlasts hP h l.stream
        split <;> rename_i heq <;> rw [heq] at hstream
        · exact ⟨rfl, hstream⟩
        · exact ⟨rfl, hflush hstream⟩
      · exact ⟨rfl, hflush h⟩

theorem close_below (hP : Sink.OutlastsWrites P) (hd : l.decision ≠ .pending) (h : P l.inner) :
    l.close.2.decision = l.decision ∧ P l.close.2.inner := by
  unfold GzipLayer.close
  rw [commit_of_ne hd]
  split_ifs
  · exact ⟨rfl, h⟩
  · simp only
    split
    · exact ⟨rfl, h⟩
    · split
      · exact ⟨rfl, MemberStream.finish_outlasts hP h l.stream⟩
      · exact ⟨rfl, h⟩

theorem abandon_below (hP : Sink.OutlastsWrites P) (h : P l.inner) :
    l.abandon.decision = l.decision ∧ P l.abandon.inner := by
  unfold GzipLayer.abandon
  split
  · exact ⟨rfl, MemberStream.finish_outlasts hP h l.stream⟩
  · exact ⟨rfl, h⟩

/-! ### Three phases -/

/-- **What is so below a layer**, as its decision says. -/
def Phased (waits skips packs : ω → Prop) (l : GzipLayer τ ω) : Prop :=
  match l.decision with
  | .pending => waits l.inner
  | .skip => skips l.inner
  | .compress => packs l.inner

/-- **The step between phases**: a status is given, to a sink whose headers are right for the
decision. -/
structure Leads (waits skips packs : ω → Prop) : Prop where
  skip : ∀ {w}, waits w → ∀ code, skips (Sink.sendStatus w code)
  compress : ∀ {w}, waits w → ∀ {code minSize buffer},
    decide (Sink.headers w) code minSize buffer = .compress →
    packs (Sink.sendStatus (Sink.setHeaders w (compressedHeaders (Sink.headers w) buffer)) code)

namespace Phased

variable {waits skips packs : ω → Prop}

omit [MemberStream τ] [Sink ω] in
theorem pending_iff (hd : l.decision = .pending) :
    Phased waits skips packs l ↔ waits l.inner := by
  rw [Phased, hd]

omit [MemberStream τ] [Sink ω] in
theorem skip_iff (hd : l.decision = .skip) : Phased waits skips packs l ↔ skips l.inner := by
  rw [Phased, hd]

omit [MemberStream τ] [Sink ω] in
theorem compress_iff (hd : l.decision = .compress) :
    Phased waits skips packs l ↔ packs l.inner := by
  rw [Phased, hd]

omit [MemberStream τ] [Sink ω] in
/-- What leaves the decision of a decided layer alone, and what is below, leaves the phase alone. -/
theorem of_below (h : Phased waits skips packs l) (hd : l.decision ≠ .pending)
    {l' : GzipLayer τ ω} (hsame : l'.decision = l.decision)
    (hskips : skips l.inner → skips l'.inner) (hpacks : packs l.inner → packs l'.inner) :
    Phased waits skips packs l' := by
  cases hdecision : l.decision with
  | pending => exact absurd hdecision hd
  | skip => exact (skip_iff (hsame.trans hdecision)).mpr (hskips ((skip_iff hdecision).mp h))
  | compress =>
    exact (compress_iff (hsame.trans hdecision)).mpr (hpacks ((compress_iff hdecision).mp h))

/-- **The decision falls**, if it had not. -/
theorem commit (hskips : Sink.OutlastsWrites skips) (hpacks : Sink.OutlastsWrites packs)
    (hleads : Leads waits skips packs) (h : Phased waits skips packs l) :
    Phased waits skips packs l.commit := by
  by_cases hd : l.decision = .pending
  · have hwaits := (pending_iff hd).mp h
    cases hdue : l.due with
    | pending => exact absurd hdue l.due_ne_pending
    | skip =>
      have hdressed : l.dressed = l.inner := by
        unfold dressed
        rw [hdue]
      obtain ⟨hfallen, hbelow⟩ := commit_below hskips hd
        (by rw [hdressed]; exact hleads.skip hwaits _)
      exact (skip_iff (hfallen.trans hdue)).mpr hbelow
    | compress =>
      have hdressed : l.dressed
          = Sink.setHeaders l.inner (compressedHeaders (Sink.headers l.inner) l.buffer) := by
        unfold dressed
        rw [hdue]
      obtain ⟨hfallen, hbelow⟩ := commit_below hpacks hd
        (by rw [hdressed]; exact hleads.compress hwaits hdue)
      exact (compress_iff (hfallen.trans hdue)).mpr hbelow
  · rwa [commit_of_ne hd]

/-- **Closing** makes the decision fall and writes what is left. -/
theorem close (hskips : Sink.OutlastsWrites skips) (hpacks : Sink.OutlastsWrites packs)
    (hleads : Leads waits skips packs) (h : Phased waits skips packs l) :
    Phased waits skips packs l.close.2 := by
  cases hhijacked : l.hijacked with
  | true =>
    rw [close_of_hijacked hhijacked]
    exact h
  | false =>
    have hd := commit_ne_pending l
    rw [close_commit hhijacked]
    exact (h.commit hskips hpacks hleads).of_below hd
      (close_below (P := fun _ => True) (fun _ _ _ => trivial) hd trivial).1
      (fun hbelow => (close_below hskips hd hbelow).2)
      (fun hbelow => (close_below hpacks hd hbelow).2)

end Phased

/-- **Three properties** of the sink below that requests of some kinds do not end, and of which the
decision leads from the first to one of the others, give a property of the layer. -/
theorem outlasts_phased {kinds : Requests} {waits skips packs : ω → Prop}
    (hwaits : ∀ {w}, waits w → ∀ {headers}, kinds.edit (Sink.headers w) headers →
      waits (Sink.setHeaders w headers))
    (hhijack : kinds.hijack → ∀ {w}, waits w → ∀ answer, waits (Sink.hijack w answer).2)
    (hskips : Sink.Outlasts kinds skips) (hpacks : Sink.Outlasts kinds packs)
    (hleads : Leads waits skips packs) :
    Sink.Outlasts kinds (Phased waits skips packs : GzipLayer τ ω → Prop) where
  setHeaders := by
    intro l h headers hedit
    show Phased waits skips packs { l with inner := Sink.setHeaders l.inner headers }
    unfold Phased at h ⊢
    cases hd : l.decision with
    | pending => exact hwaits (by rwa [hd] at h) hedit
    | skip => exact hskips.setHeaders (by rwa [hd] at h) hedit
    | compress => exact hpacks.setHeaders (by rwa [hd] at h) hedit
  sendStatus := fun h _ => h
  write := by
    intro l h data
    show Phased waits skips packs (l.write data).2
    by_cases hd : l.decision = .pending
    · -- while the layer waits the write is refused or held back, and may make the decision fall
      rcases l.write_cases data with hsame | ⟨hfallen, -⟩ | ⟨-, hcollected⟩
      · rwa [hsame]
      · exact absurd hd hfallen
      · rw [hcollected, collect, report_snd]
        split_ifs
        · exact h
        · exact Phased.commit (l := l.held data) hskips.writes hpacks.writes hleads h
    · exact h.of_below hd
        (write_below (P := fun _ => True) (fun _ _ _ => trivial) hd trivial data).1
        (fun hbelow => (write_below hskips.writes hd hbelow data).2)
        (fun hbelow => (write_below hpacks.writes hd hbelow data).2)
  flush := by
    intro hflush l h
    show Phased waits skips packs l.flush.2
    cases hhijacked : l.hijacked with
    | true =>
      rw [flush_of_hijacked hhijacked]
      exact h
    | false =>
      -- the flush makes the decision fall, and goes on from there
      have hd := commit_ne_pending l
      rw [flush_commit hhijacked]
      exact (h.commit hskips.writes hpacks.writes hleads).of_below hd
        (flush_below (P := fun _ => True) (fun _ _ _ => trivial) id hd trivial).1
        (fun hbelow => (flush_below hskips.writes (hskips.flush hflush) hd hbelow).2)
        (fun hbelow => (flush_below hpacks.writes (hpacks.flush hflush) hd hbelow).2)
  hijack := by
    intro hkind l h answer
    have hsame := l.hijack_decision answer
    have hinner : (l.hijack answer).2.inner = (Sink.hijack l.inner answer).2 :=
      l.hijack_inner answer
    show Phased waits skips packs (l.hijack answer).2
    unfold Phased at h ⊢
    rw [hsame, hinner]
    cases hd : l.decision with
    | pending => exact hhijack hkind (by rwa [hd] at h) answer
    | skip => exact hskips.hijack hkind (by rwa [hd] at h) answer
    | compress => exact hpacks.hijack hkind (by rwa [hd] at h) answer

end HttpPipeline.GzipLayer
