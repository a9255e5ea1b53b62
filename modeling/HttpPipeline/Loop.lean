import Mathlib.Data.PFun

/-!
# Loops that may not end

The body of a loop either ends it, with a result, or goes on from another state. Nothing in the loop
itself sees to it that it ends, so `loop` is a result that there may be or not (`Part`), and that
there is one is a matter of proof.

A loop that ends has come to its result in finitely many turns (`loop_eq_some_iff`). Whatever is so
of the result is proved by induction on these (`Turns`). Two loops whose bodies keep a relation
between their states end alike: both with related results, or neither (`loop_endsAlike`).
-/

namespace HttpPipeline

variable {α β : Type}

/-- **A loop**: its body gives a result, or the state to go on from. -/
def loop (body : α → β ⊕ α) (a : α) : Part β := PFun.fix (fun a => Part.some (body a)) a

/-- **The turns of a loop** from a state to its result. -/
inductive Turns (body : α → β ⊕ α) : α → β → Prop
  | last {a : α} {b : β} (h : body a = .inl b) : Turns body a b
  | more {a a' : α} {b : β} (h : body a = .inr a') (hrest : Turns body a' b) : Turns body a b

variable {body : α → β ⊕ α} {a : α} {b : β}

/-- A loop has a result if it comes to it in some turns. -/
theorem loop_eq_some_iff : loop body a = .some b ↔ Turns body a b := by
  rw [Part.eq_some_iff]
  constructor
  · intro h
    refine PFun.fixInduction' (C := fun a => Turns body a b) h (fun a hlast => ?_)
      fun a a' _ hmore ih => ?_
    · exact .last (Part.mem_some_iff.mp hlast).symm
    · exact .more (Part.mem_some_iff.mp hmore).symm ih
  · intro h
    induction h with
    | last h => exact PFun.mem_fix_iff.mpr (.inl (Part.mem_some_iff.mpr h.symm))
    | more h _ ih => exact PFun.mem_fix_iff.mpr (.inr ⟨_, Part.mem_some_iff.mpr h.symm, ih⟩)

/-- A loop depends on where it starts from by what its body makes of it. -/
theorem loop_congr {a' : α} (h : body a = body a') : loop body a = loop body a' := by
  have hturns {a a' : α} {b : β} (h : body a = body a') (hturns : Turns body a b) :
      Turns body a' b := by
    cases hturns with
    | last hlast => exact .last (h.symm.trans hlast)
    | more hmore hrest => exact .more (h.symm.trans hmore) hrest
  refine Part.ext fun b => ?_
  rw [← Part.eq_some_iff, ← Part.eq_some_iff, loop_eq_some_iff, loop_eq_some_iff]
  exact ⟨hturns h, hturns h.symm⟩

/-! ### Two loops -/

section Two

variable {α' β' : Type} {body' : α' → β' ⊕ α'} {A : α → α' → Prop} {B : β → β' → Prop}

/-- The turns of one loop are the turns of another. -/
theorem Turns.exists_rel (hbody : ∀ {a a'}, A a a' → Sum.LiftRel B A (body a) (body' a'))
    (h : Turns body a b) {a' : α'} (ha : A a a') : ∃ b', Turns body' a' b' ∧ B b b' := by
  induction h generalizing a' with
  | last hlast =>
    have hrel := hbody ha
    rw [hlast] at hrel
    generalize hlast' : body' a' = outcome at hrel
    cases hrel with
    | inl hb => exact ⟨_, .last hlast', hb⟩
  | more hmore _ ih =>
    have hrel := hbody ha
    rw [hmore] at hrel
    generalize hmore' : body' a' = outcome at hrel
    cases hrel with
    | inr hnext =>
      obtain ⟨b', hturns, hb⟩ := ih hnext
      exact ⟨b', .more hmore' hturns, hb⟩

/-- **Ending alike**: with related results, or not at all. -/
structure EndsAlike (B : β → β' → Prop) (p : Part β) (p' : Part β') : Prop where
  forth : ∀ {b}, p = .some b → ∃ b', p' = .some b' ∧ B b b'
  back : ∀ {b'}, p' = .some b' → ∃ b, p = .some b ∧ B b b'

theorem EndsAlike.some {b' : β'} (h : B b b') : EndsAlike B (.some b) (.some b') where
  forth hb := ⟨b', rfl, Part.some_inj.mp hb ▸ h⟩
  back hb' := ⟨b, rfl, Part.some_inj.mp hb' ▸ h⟩

theorem EndsAlike.map {γ γ' : Type} {C : γ → γ' → Prop} {p : Part β} {p' : Part β'}
    (h : EndsAlike B p p') {f : β → γ} {f' : β' → γ'} (hf : ∀ {b b'}, B b b' → C (f b) (f' b')) :
    EndsAlike C (p.map f) (p'.map f') where
  forth := by
    intro c hc
    obtain ⟨b, hb, rfl⟩ := (Part.mem_map_iff f).mp (Part.eq_some_iff.mp hc)
    obtain ⟨b', hb', hrel⟩ := h.forth (Part.eq_some_iff.mpr hb)
    exact ⟨f' b', by rw [hb', Part.map_some], hf hrel⟩
  back := by
    intro c' hc'
    obtain ⟨b', hb', rfl⟩ := (Part.mem_map_iff f').mp (Part.eq_some_iff.mp hc')
    obtain ⟨b, hb, hrel⟩ := h.back (Part.eq_some_iff.mpr hb')
    exact ⟨f b, by rw [hb, Part.map_some], hf hrel⟩

/-- **Two loops** whose bodies keep a relation end alike. -/
theorem loop_endsAlike (hbody : ∀ {a a'}, A a a' → Sum.LiftRel B A (body a) (body' a')) {a' : α'}
    (ha : A a a') : EndsAlike B (loop body a) (loop body' a') where
  forth := by
    intro b hb
    obtain ⟨b', hturns, hrel⟩ := (loop_eq_some_iff.mp hb).exists_rel hbody ha
    exact ⟨b', loop_eq_some_iff.mpr hturns, hrel⟩
  back := by
    intro b' hb'
    -- the same relation, the other way round
    have hswap {a' : α'} {a : α} (ha : A a a') :
        Sum.LiftRel (fun b' b => B b b') (fun a' a => A a a') (body' a') (body a) := by
      have hrel := hbody ha
      generalize body a = outcome at hrel
      generalize body' a' = outcome' at hrel
      cases hrel with
      | inl hb => exact .inl hb
      | inr hnext => exact .inr hnext
    obtain ⟨b, hturns, hrel⟩ := (loop_eq_some_iff.mp hb').exists_rel hswap ha
    exact ⟨b, loop_eq_some_iff.mpr hturns, hrel⟩

end Two

end HttpPipeline
