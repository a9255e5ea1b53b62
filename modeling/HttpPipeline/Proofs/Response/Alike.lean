import HttpPipeline.Proofs.Response.Mirrored

/-!
# Towers that cannot be told apart

What holds of one layer (`Mirrored`) holds of any stack of layers. Two towers are alike if their
layers remember the same, their bottoms are related, and their streams are (`Stack.Alike`). No
request to the whole tower tells them apart (`Stack.mirrors`), nor one to the tower some layers
further in (`Stack.Alike.reach`), nor the end of a layer (`Stack.Alike.partTop`,
`Stack.Alike.unwind`).

The relation between the streams of two compression layers may depend on how many layers there are
below. So a single layer can be singled out, and of all the others be asked that their streams are
the same.
-/

namespace HttpPipeline.Stack

/-- How many layers there are. -/
def height : Stack → Nat
  | bottom => 0
  | status below => below.height + 1
  | commit below => below.height + 1
  | pass below => below.height + 1
  | gzip below => below.height + 1

variable {τ σ : Type}

/-- **One memory**: two towers whose layers remember the same, with related streams over related
bottoms. -/
def Alike (T : Nat → τ → τ → Prop) (R : σ → σ → Prop) :
    (s : Stack) → s.Writer τ σ → s.Writer τ σ → Prop
  | bottom => R
  | status below => StatusLayer.Alike (Alike T R below)
  | commit below => CommitLayer.Alike (Alike T R below)
  | pass below => PassLayer.Alike (Alike T R below)
  | gzip below => GzipLayer.Alike (T below.height) (Alike T R below)

variable {T : Nat → τ → τ → Prop} {R : σ → σ → Prop} {s : Stack} {w w' : s.Writer τ σ}

/-- Every tower over a bottom that is related to itself is alike to itself, if its streams are
related to themselves. -/
theorem alike_refl (hT : ∀ n < s.height, ∀ x, T n x x) (h : R (s.base w) (s.base w)) :
    s.Alike T R w w := by
  induction s with
  | bottom => exact h
  | status below ih => exact .mk (ih (fun n hn => hT n (Nat.lt_succ_of_lt hn)) h)
  | commit below ih => exact .mk (ih (fun n hn => hT n (Nat.lt_succ_of_lt hn)) h)
  | pass below ih => exact .mk (ih (fun n hn => hT n (Nat.lt_succ_of_lt hn)) h)
  | gzip below ih =>
    exact .mk (hT _ (Nat.lt_succ_self _) _) (ih (fun n hn => hT n (Nat.lt_succ_of_lt hn)) h)

theorem Alike.base (h : s.Alike T R w w') : R (s.base w) (s.base w') := by
  induction s with
  | bottom => exact h
  | status below ih =>
    obtain ⟨h⟩ := h
    exact ih h
  | commit below ih =>
    obtain ⟨h⟩ := h
    exact ih h
  | pass below ih =>
    obtain ⟨h⟩ := h
    exact ih h
  | gzip below ih =>
    obtain ⟨-, h⟩ := h
    exact ih h

/-- All that can differ is the bottom, if the streams are the same. -/
theorem Alike.eq_onBase (hT : ∀ n < s.height, ∀ x x', T n x x' → x = x')
    (h : s.Alike T R w w') : w = s.onBase (fun _ => s.base w) w' := by
  induction s with
  | bottom => rfl
  | status below ih =>
    obtain ⟨h⟩ := h
    exact congrArg (fun inner => StatusLayer.mk inner _ _ _)
      (ih (fun n hn => hT n (Nat.lt_succ_of_lt hn)) h)
  | commit below ih =>
    obtain ⟨h⟩ := h
    exact congrArg (fun inner => CommitLayer.mk inner _)
      (ih (fun n hn => hT n (Nat.lt_succ_of_lt hn)) h)
  | pass below ih =>
    obtain ⟨h⟩ := h
    exact congrArg (fun inner => PassLayer.mk inner _)
      (ih (fun n hn => hT n (Nat.lt_succ_of_lt hn)) h)
  | gzip below ih =>
    obtain ⟨hs, h⟩ := h
    -- streams that are twins are equal, so only the bottoms can differ
    obtain rfl := hT _ (Nat.lt_succ_self _) _ _ hs
    exact congrArg (fun inner => GzipLayer.mk inner _ _ _ _ _ _ _ _)
      (ih (fun n hn => hT n (Nat.lt_succ_of_lt hn)) h)

/-- Towers over the same bottom are the same then. -/
theorem Alike.eq (hT : ∀ n < s.height, ∀ x x', T n x x' → x = x')
    (h : s.Alike T (Eq : σ → σ → Prop) w w') : w = w' := by
  have hself : s.Alike (fun _ => Eq) Eq w' w' := alike_refl (fun _ _ _ => rfl) rfl
  calc w = s.onBase (fun _ => s.base w) w' := h.eq_onBase hT
    _ = s.onBase (fun _ => s.base w') w' := by rw [h.base]
    _ = w' := (hself.eq_onBase fun _ _ _ _ => id).symm

/-- Something happens to the bottom of one of them. -/
theorem Alike.onBase (h : s.Alike T R w w') {f : σ → σ} (hf : R (s.base w) (f (s.base w'))) :
    s.Alike T R w (s.onBase f w') := by
  induction s with
  | bottom => exact hf
  | status below ih =>
    obtain ⟨h⟩ := h
    exact .mk (ih h hf)
  | commit below ih =>
    obtain ⟨h⟩ := h
    exact .mk (ih h hf)
  | pass below ih =>
    obtain ⟨h⟩ := h
    exact .mk (ih h hf)
  | gzip below ih =>
    obtain ⟨hs, h⟩ := h
    exact .mk hs (ih h hf)

/-! ### Going behind layers -/

/-- **What is done some layers further in** has the same outcome, if it has it there. -/
theorem Alike.reach {ρ : Type} {missing : ρ}
    {action : (t : Stack) → t.Writer τ σ → ρ × t.Writer τ σ}
    (haction : ∀ {t : Stack} {v v' : t.Writer τ σ}, t.Alike T R v v' →
      Sink.Agree (t.Alike T R) (action t v) (action t v'))
    (h : s.Alike T R w w') (depth : Nat) :
    Sink.Agree (s.Alike T R) (s.reach missing action depth w)
      (s.reach missing action depth w') := by
  -- on the depth: the layers that are passed are alike, and so is what is behind them
  induction depth generalizing s with
  | zero => exact haction h
  | succ depth ih =>
    cases s with
    | bottom => exact ⟨rfl, h⟩
    | status below =>
      obtain ⟨h⟩ := h
      rw [reach_status, reach_status]
      exact ⟨(ih h).answer, .mk (ih h).left⟩
    | commit below =>
      obtain ⟨h⟩ := h
      rw [reach_commit, reach_commit]
      exact ⟨(ih h).answer, .mk (ih h).left⟩
    | pass below =>
      obtain ⟨h⟩ := h
      rw [reach_pass, reach_pass]
      split_ifs
      · exact ⟨rfl, .mk h⟩
      · exact ⟨(ih h).answer, .mk (ih h).left⟩
    | gzip below =>
      obtain ⟨hs, h⟩ := h
      rw [reach_gzip, reach_gzip]
      exact ⟨(ih h).answer, .mk hs (ih h).left⟩

/-! ### Requests -/

variable [MemberStream τ] [Sink σ]

/-- **Towers mirror** what is below them. -/
theorem mirrors (hT : ∀ n, MemberStream.Twins (T n)) (hR : Sink.Mirrors R) (s : Stack) :
    Sink.Mirrors (s.Alike T R : s.Writer τ σ → s.Writer τ σ → Prop) := by
  induction s with
  | bottom => exact hR
  | status below ih => exact StatusLayer.mirrors ih
  | commit below ih => exact CommitLayer.mirrors ih
  | pass below ih => exact PassLayer.mirrors ih
  | gzip below ih => exact GzipLayer.mirrors (hT _) ih

/-- A call behind layers has the same outcome. -/
theorem Alike.ask (hT : ∀ n, MemberStream.Twins (T n)) (hR : Sink.Mirrors R)
    (h : s.Alike T R w w') (depth : Nat) (call : Call) :
    Sink.Agree (s.Alike T R) (s.ask depth call w) (s.ask depth call w') :=
  h.reach (fun hinside => (mirrors hT hR _).perform hinside call) depth

/-- An edit behind layers has the same outcome. -/
theorem Alike.edit (hT : ∀ n, MemberStream.Twins (T n)) (hR : Sink.Mirrors R)
    (h : s.Alike T R w w') (depth : Nat) (change : Headers → Headers) :
    Sink.Agree (s.Alike T R) (s.edit depth change w) (s.edit depth change w') :=
  h.reach (fun hinside => ⟨congrArg some ((mirrors hT hR _).headers hinside),
    (mirrors hT hR _).editHeaders hinside change⟩) depth

/-! ### The end of a layer -/

/-- Ending the outermost layer has the same outcome. -/
theorem Alike.partTop (hT : ∀ n, MemberStream.Twins (T n)) (hR : Sink.Mirrors R)
    (h : s.Alike T R w w') (how : Parting) :
    Sink.Agree (s.Alike T R) (s.partTop how w) (s.partTop how w') := by
  cases s with
  | gzip below => exact GzipLayer.Alike.part (hT _) (mirrors hT hR below) h how
  | bottom => exact ⟨rfl, h⟩
  | status below => exact ⟨rfl, h⟩
  | commit below => exact ⟨rfl, h⟩
  | pass below => exact ⟨rfl, h⟩

/-- **Taking apart** two towers that are alike removes the same layers, if the streams are the
same. -/
theorem Alike.unwind (hR : Sink.Mirrors R) (h : s.Alike (fun _ => Eq) R w w')
    (hows : List Parting) : Sink.Agree R (s.unwind hows w) (s.unwind hows w') := by
  induction s generalizing hows with
  | bottom => exact ⟨rfl, h⟩
  | status below ih =>
    obtain ⟨h⟩ := h
    have hbelow := ih h hows
    exact ⟨congrArg (_ :: ·) hbelow.answer, hbelow.left⟩
  | commit below ih =>
    obtain ⟨h⟩ := h
    have hbelow := ih h hows
    exact ⟨congrArg (_ :: ·) hbelow.answer, hbelow.left⟩
  | pass below ih =>
    obtain ⟨h⟩ := h
    exact ih h hows
  -- the one layer that does something at its end
  | gzip below ih =>
    have hpart := GzipLayer.Alike.part MemberStream.twins_eq
      (mirrors (fun _ => MemberStream.twins_eq) hR below) h (hows.headD .close)
    simp only [Stack.unwind]
    refine hpart.elim fun result _ _ hleft => ?_
    obtain ⟨rfl, h⟩ := hleft
    have hbelow := ih h hows.tail
    exact ⟨congrArg (_ :: ·) hbelow.answer, hbelow.left⟩

end HttpPipeline.Stack
