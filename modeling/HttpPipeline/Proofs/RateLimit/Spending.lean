import HttpPipeline.Proofs.Number.Exactness
import HttpPipeline.Proofs.RateLimit.Bounds
import Mathlib.Algebra.Order.Floor.Semiring

/-!
# Tokens are spent one by one

While time does not advance, a bucket admits as many attempts as it holds whole tokens, and no
more, whatever part of a token a refill has left it with (`Bucket.run_spends`). Rounding might spoil
this in two places, and does not in either.

* A refill for no time adds nothing, and rounding a number of the format gives it back. The tokens
  of a bucket are such a number, since every refill and every payment rounds to one
  (`Bucket.Exact`).
* The token that is taken away is taken away exactly: what is left of a number of the format, less
  one, is of the format too.
-/

namespace HttpPipeline

namespace Bucket

variable {rate : Binary64} {burst : ℕ} {b : Bucket Binary64}

/-! ### The refill -/

theorem Bounded.le_burst (h : Bounded rate burst b) {q : ℚ} (hq : b.tokens.toRat? = some q) :
    q ≤ burst := by
  obtain ⟨p, hp, -, hle⟩ := h.tokens
  obtain rfl := Option.some.inj (hq.symm.trans hp)
  exact hle

/-- **What a refill leaves**: the exact sum, rounded once and cut at the capacity. -/
theorem Bounded.toRat?_refill (h : Bounded rate burst b) (hburst : burst < 2 ^ 53) {m : ℕ} {e : ℤ}
    (hrate : rate = .finite false (m + 1) e) {r s q : ℚ} (hr : rate.toRat? = some r) {now : ℤ}
    (hs : (Duration.between b.lastRefill now).toSeconds.toRat? = some s)
    (hq : b.tokens.toRat? = some q) :
    (b.refill now).tokens.toRat? = some (min (Binary64.rounded (s * r + q)) burst) := by
  have hseconds := Duration.amount_toSeconds (.between b.lastRefill now)
  have hrefill : (b.refill now).tokens = Binary64.min
      (Binary64.fma (Duration.between b.lastRefill now).toSeconds rate b.tokens)
      (.ofNat burst) := by
    rw [← h.capacity, ← h.rate]
    rfl
  subst hrate
  have hnonneg : 0 ≤ s * r + q := by
    have hs0 := hseconds.value_nonneg
    have hq0 := h.amount.value_nonneg
    have hr0 := Binary64.value_pos m e
    rw [hs, Option.getD_some] at hs0
    rw [hq, Option.getD_some] at hq0
    rw [hr, Option.getD_some] at hr0
    positivity
  have hcapacity : (burst : ℚ) ≤ 2 ^ (1024 : ℤ) := by
    have hdigits : (burst : ℚ) ≤ 2 ^ (53 : ℤ) := by exact_mod_cast hburst.le
    exact hdigits.trans (zpow_le_zpow_right₀ (by norm_num) (by norm_num))
  rw [hrefill, hseconds.fma_eq_round hs hr h.amount hq]
  exact Binary64.toRat?_min_round hnonneg (Binary64.ofNat_exact hburst) hcapacity

/-! ### Exact tokens -/

/-- **A bucket whose tokens are a number of the format**, and in bounds. -/
structure Exact (rate : Binary64) (burst : ℕ) (b : Bucket Binary64) : Prop
    extends Bounded rate burst b where
  representable : b.tokens.Representable

/-- A full bucket. -/
theorem exact_full (hburst : burst < 2 ^ 53) (rate : Binary64) (created : ℤ) :
    Exact rate burst (full rate burst created) :=
  { bounded_full hburst rate created with
    representable := Binary64.representable_round (Nat.cast_nonneg burst) }

namespace Exact

/-- What there is, is a number of the format within bounds. -/
theorem value (h : Exact rate burst b) :
    ∃ q, b.tokens.toRat? = some q ∧ 0 ≤ q ∧ q ≤ burst ∧ Binary64.Has q := by
  obtain ⟨q, hq, hlow, hhigh⟩ := h.tokens
  exact ⟨q, hq, hlow, hhigh, h.representable q hq⟩

theorem refill (h : Exact rate burst b) (hburst : burst < 2 ^ 53) {m : ℕ} {e : ℤ}
    (hrate : rate = .finite false (m + 1) e) (now : ℤ) : Exact rate burst (b.refill now) where
  toBounded := h.toBounded.refill hburst hrate now
  representable := by
    have hgrown : (Binary64.fma (Duration.between b.lastRefill now).toSeconds b.rate
        b.tokens).Representable := by
      rw [h.rate, hrate]
      exact (Duration.amount_toSeconds _).fma_representable m e h.amount
    have hcapacity : b.capacity.Representable := by
      rw [h.capacity]
      exact Binary64.representable_round (Nat.cast_nonneg burst)
    exact hgrown.min hcapacity

/-- **A token is taken away exactly.** -/
theorem toRat?_sub_one (h : Exact rate burst b) (hburst : burst < 2 ^ 53) {q : ℚ}
    (hq : b.tokens.toRat? = some q) (hone : 1 ≤ q) :
    (TokenArithmetic.sub b.tokens (TokenArithmetic.ofNat 1)).toRat? = some (q - 1) := by
  have hsub : TokenArithmetic.sub b.tokens (TokenArithmetic.ofNat 1) = .round (q - 1) false :=
    h.amount.sub_eq_round hq Binary64.toRat?_one
  have hhigh : q < 2 ^ 53 := lt_of_le_of_lt (h.le_burst hq) (by exact_mod_cast hburst)
  rw [hsub]
  exact Binary64.round_exact ((h.representable q hq).sub_one hone hhigh) false

theorem spend (h : Exact rate burst b) (hburst : burst < 2 ^ 53)
    (hone : TokenArithmetic.holdsOne b.tokens = true) :
    Exact rate burst
      { b with tokens := TokenArithmetic.sub b.tokens (TokenArithmetic.ofNat 1) } where
  toBounded := h.toBounded.spend hburst hone
  representable := by
    obtain ⟨q, hq, -, hle, hhas⟩ := h.value
    have hmore : 1 ≤ q := (holdsOne_iff hq).mp hone
    have hhigh : q < 2 ^ 53 := lt_of_le_of_lt hle (by exact_mod_cast hburst)
    intro p hp
    obtain rfl := Option.some.inj ((h.toRat?_sub_one hburst hq hmore).symm.trans hp)
    exact hhas.sub_one hmore hhigh

/-- **An attempt** leaves exact tokens, -/
theorem acquireAt (h : Exact rate burst b) (hburst : burst < 2 ^ 53) {m : ℕ} {e : ℤ}
    (hrate : rate = .finite false (m + 1) e) (now : ℤ) :
    Exact rate burst (b.acquireAt now).2 :=
  acquireAt_keeps (fun _ now hb => hb.refill hburst hrate now)
    (fun _ hb hone => hb.spend hburst hone) h now

/-- and so do any number of them. -/
theorem run (h : Exact rate burst b) (hburst : burst < 2 ^ 53) {m : ℕ} {e : ℤ}
    (hrate : rate = .finite false (m + 1) e) (instants : List ℤ) :
    Exact rate burst (b.run instants).2 :=
  run_keeps (fun _ now hb => hb.acquireAt hburst hrate now) h instants

/-! ### While time stands still -/

section Standing

variable {m : ℕ} {e : ℤ} {q : ℚ} {now : ℤ}

/-- **A refill for no time** is none. -/
theorem toRat?_refill_standing (h : Exact rate burst b) (hburst : burst < 2 ^ 53)
    (hrate : rate = .finite false (m + 1) e) (hq : b.tokens.toRat? = some q)
    (hnow : now ≤ b.lastRefill) : (b.refill now).tokens.toRat? = some q := by
  have hbetween : Duration.between b.lastRefill now = ⟨0⟩ := by
    unfold Duration.between
    rw [Int.toNat_of_nonpos (by omega)]
  have hr : rate.toRat? = some (((m + 1 : ℕ) : ℚ) * 2 ^ e) := by
    rw [hrate, Binary64.toRat?_finite]
  have hnone : (Duration.between b.lastRefill now).toSeconds.toRat? = some ((0 : ℕ) : ℚ) := by
    rw [hbetween, ← Nat.zero_mul Duration.perSecond]
    exact Duration.toSeconds_whole (by exact_mod_cast Binary64.has_zero)
  rw [h.toRat?_refill hburst hrate hr hnone hq, Nat.cast_zero, zero_mul, zero_add,
    (h.representable q hq).rounded_eq, min_eq_left (h.le_burst hq)]

/-- **One attempt** is admitted if there is a whole token, and costs that, or it is turned away
and costs nothing. -/
theorem acquireAt_standing (h : Exact rate burst b) (hburst : burst < 2 ^ 53)
    (hrate : rate = .finite false (m + 1) e) (hq : b.tokens.toRat? = some q)
    (hnow : now ≤ b.lastRefill) :
    (b.acquireAt now).1.isAdmitted = decide (1 ≤ q) ∧
      (b.acquireAt now).2.tokens.toRat? = some (if 1 ≤ q then q - 1 else q) ∧
      (b.acquireAt now).2.lastRefill = b.lastRefill := by
  have hrefilled := h.refill hburst hrate now
  have hsame := h.toRat?_refill_standing hburst hrate hq hnow
  have hlast : (b.acquireAt now).2.lastRefill = b.lastRefill := by
    rw [acquireAt_lastRefill, max_eq_left hnow]
  refine ⟨?_, ?_, hlast⟩
  · by_cases hone : 1 ≤ q
    · rw [acquireAt_of_holds ((holdsOne_iff hsame).mpr hone), decide_eq_true hone]
      rfl
    · rw [acquireAt_of_lacks (mt (holdsOne_iff hsame).mp hone), decide_eq_false hone]
      rfl
  · by_cases hone : 1 ≤ q
    · rw [acquireAt_of_holds ((holdsOne_iff hsame).mpr hone), if_pos hone]
      exact hrefilled.toRat?_sub_one hburst hsame hone
    · rw [acquireAt_of_lacks (mt (holdsOne_iff hsame).mp hone), if_neg hone]
      exact hsame

/-- **Any number of attempts**: the whole tokens are spent on the first of them. -/
theorem run_standing (h : Exact rate burst b) (hburst : burst < 2 ^ 53)
    (hrate : rate = .finite false (m + 1) e) (hq : b.tokens.toRat? = some q) (instants : List ℤ)
    (hinstants : ∀ now ∈ instants, now ≤ b.lastRefill) :
    (b.run instants).1.map Admission.isAdmitted =
        .replicate (min ⌊q⌋₊ instants.length) true ++
          .replicate (instants.length - ⌊q⌋₊) false ∧
      (b.run instants).2.tokens.toRat? = some (q - min ⌊q⌋₊ instants.length) ∧
      (b.run instants).2.lastRefill = b.lastRefill := by
  induction instants generalizing b q with
  | nil =>
    refine ⟨by simp [Bucket.run], ?_, rfl⟩
    rw [List.length_nil, Nat.min_zero, Nat.cast_zero, sub_zero]
    exact hq
  | cons now later ih =>
    obtain ⟨hadmitted, htokens, hlast⟩ := h.acquireAt_standing hburst hrate hq
      (hinstants now List.mem_cons_self)
    have hlater : ∀ now' ∈ later, now' ≤ (b.acquireAt now).2.lastRefill := by
      intro now' hnow'
      rw [hlast]
      exact hinstants now' (List.mem_cons_of_mem _ hnow')
    obtain ⟨hrest, hleft, hend⟩ := ih (h.acquireAt hburst hrate now) htokens hlater
    rw [run_cons, List.map_cons, List.length_cons, hadmitted, hrest, hleft]
    by_cases hone : 1 ≤ q
    · -- one of the whole tokens is gone
      obtain ⟨k, hk⟩ : ∃ k, ⌊q⌋₊ = k + 1 :=
        Nat.exists_eq_succ_of_ne_zero (Nat.floor_pos.mpr hone).ne'
      have hfloor : ⌊q - 1⌋₊ = k := by rw [Nat.floor_sub_one, hk, Nat.add_sub_cancel]
      rw [decide_eq_true hone, if_pos hone, hfloor, hk, Nat.succ_min_succ, Nat.succ_sub_succ]
      refine ⟨?_, ?_, hend.trans hlast⟩
      · rw [List.replicate_succ, List.cons_append]
      · push_cast
        congr 1
        ring
    · -- there was none, and there is none for those who follow
      have hfloor : ⌊q⌋₊ = 0 := Nat.floor_eq_zero.mpr (not_le.mp hone)
      rw [decide_eq_false hone, if_neg hone, hfloor, Nat.zero_min, Nat.zero_min, Nat.sub_zero,
        Nat.sub_zero]
      refine ⟨?_, rfl, hend.trans hlast⟩
      rw [List.replicate_zero, List.nil_append, List.nil_append, List.replicate_succ]

end Standing

end Exact

/-- **While time does not advance**, exactly the first attempts are admitted, as many as there are
whole tokens, by whomever and at whatever instants they are made. Each costs one token exactly, and
an attempt that is turned away costs nothing. A full bucket admits as many as its burst. -/
theorem run_spends {rate : Binary64} (hfinite : rate.isFinite = true)
    (hpositive : Binary64.lt (.zero false) rate = true) {burst : ℕ} (hburst : burst < 2 ^ 32)
    (created : ℤ) (before : List ℤ) :
    let b := ((full rate burst created).run before).2
    (∃ tokens : ℚ, b.tokens.toRat? = some tokens ∧
      (∀ instants : List ℤ, (∀ now ∈ instants, now ≤ b.lastRefill) →
        (b.run instants).1.map Admission.isAdmitted =
            .replicate (min ⌊tokens⌋₊ instants.length) true ++
              .replicate (instants.length - ⌊tokens⌋₊) false ∧
          (b.run instants).2.tokens.toRat? = some (tokens - min ⌊tokens⌋₊ instants.length) ∧
          (b.run instants).2.lastRefill = b.lastRefill) ∧
      ∀ now ≤ b.lastRefill, ∀ retryAfter, (b.acquireAt now).1 = .rejected retryAfter →
        (b.acquireAt now).2.tokens.toRat? = some tokens) ∧
    ∀ instants : List ℤ, (∀ now ∈ instants, now ≤ created) →
      ((full rate burst created).run instants).1.map Admission.isAdmitted =
        .replicate (min burst instants.length) true ++
          .replicate (instants.length - burst) false := by
  intro b
  have hdigits : burst < 2 ^ 53 := lt_trans hburst (by norm_num)
  obtain ⟨m, e, hrate⟩ := Binary64.exists_of_positive hfinite hpositive
  have hfull := exact_full hdigits rate created
  have hexact : Exact rate burst b := hfull.run hdigits hrate before
  obtain ⟨tokens, htokens, -, -⟩ := hexact.value
  refine ⟨⟨tokens, htokens, ?_, ?_⟩, ?_⟩
  · intro instants hinstants
    exact hexact.run_standing hdigits hrate htokens instants hinstants
  · intro now hnow retryAfter hrejected
    obtain ⟨hlacks, hkept, -⟩ := acquireAt_rejected hrejected
    rw [hkept]
    exact hexact.toRat?_refill_standing hdigits hrate htokens hnow
  · intro instants hinstants
    have hstanding := hfull.run_standing hdigits hrate (Binary64.ofNat_exact hdigits) instants
      hinstants
    rw [Nat.floor_natCast] at hstanding
    exact hstanding.1

/-- A bucket that a refill has left with a token and a part of one. Of three attempts that are no
later than the refill the first is admitted. -/
theorem run_spends_part :
    let rate : Binary64 := .finite false 6305039478318694 (-53)
    let b := ((full rate 3 0).run [0, 0, 0, 4000000000]).2
    (∀ now ∈ [5, -3, 4000000000], now ≤ b.lastRefill) ∧
      (b.run [5, -3, 4000000000]).1.map Admission.isAdmitted = [true, false, false] := by
  intro rate b
  obtain ⟨⟨tokens, htokens, hspends, -⟩, -⟩ := run_spends (show rate.isFinite = true from rfl)
    (by decide +kernel) (show 3 < 2 ^ 32 by norm_num) 0 [0, 0, 0, 4000000000]
  have hinstants : ∀ now ∈ [5, -3, 4000000000], now ≤ b.lastRefill := by decide +kernel
  have hpart : b.tokens.toRat? = some (8106479329266892 / 2 ^ 52) := by decide +kernel
  have hwhole : ⌊tokens⌋₊ = 1 := by
    rw [← Option.some.inj (hpart.symm.trans htokens), Nat.floor_eq_iff (by norm_num)]
    norm_num
  refine ⟨hinstants, ?_⟩
  rw [(hspends _ hinstants).1, hwhole]
  rfl

end Bucket

end HttpPipeline
