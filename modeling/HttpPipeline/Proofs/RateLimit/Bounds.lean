import HttpPipeline.Proofs.Number.Amounts
import HttpPipeline.Proofs.RateLimit.Runs

/-!
# The tokens of a bucket stay in bounds

The bucket that runs computes with floating-point numbers, and its tokens are what all earlier
attempts have made of them. They are never more than the capacity nor less than nothing
(`Bucket.Bounded`), whatever the instants of the attempts: a refill may grow beyond every number,
but is cut at the capacity, and a token is spent only if there is one. Rounding does not spoil this,
since neither the capacity nor a zero is passed by it.
-/

namespace HttpPipeline

namespace Bucket

/-! ### The tokens -/

/-- **A bucket in bounds**: no more tokens than its capacity, and no fewer than none. -/
structure Bounded (rate : Binary64) (burst : ℕ) (b : Bucket Binary64) : Prop where
  rate : b.rate = rate
  capacity : b.capacity = .ofNat burst
  amount : b.tokens.Amount
  tokens : ∃ q, b.tokens.toRat? = some q ∧ 0 ≤ q ∧ q ≤ burst

variable {rate : Binary64} {burst : ℕ} {b : Bucket Binary64}

/-- A full bucket. -/
theorem bounded_full (hburst : burst < 2 ^ 53) (rate : Binary64) (created : ℤ) :
    Bounded rate burst (full rate burst created) where
  rate := rfl
  capacity := rfl
  amount := Binary64.amount_round (Nat.cast_nonneg burst)
  tokens := ⟨burst, Binary64.ofNat_exact hburst, Nat.cast_nonneg burst, le_rfl⟩

theorem holdsOne_iff {q : ℚ} (hq : b.tokens.toRat? = some q) :
    TokenArithmetic.holdsOne b.tokens = true ↔ 1 ≤ q :=
  Binary64.le_iff_value Binary64.toRat?_one hq

namespace Bounded

/-- A refill is cut at the capacity. -/
theorem refill (h : Bounded rate burst b) (hburst : burst < 2 ^ 53) {m : ℕ} {e : ℤ}
    (hrate : rate = .finite false (m + 1) e) (now : ℤ) : Bounded rate burst (b.refill now) := by
  have hgrown : (Binary64.fma (Duration.between b.lastRefill now).toSeconds b.rate
      b.tokens).Amount := by
    rw [h.rate, hrate]
    exact (Duration.amount_toSeconds _).fma m e h.amount
  have hcapacity : (Binary64.ofNat burst).Amount := Binary64.amount_round (Nat.cast_nonneg burst)
  obtain ⟨hamount, htokens⟩ := hgrown.min_le hcapacity (Binary64.ofNat_exact hburst)
  have hrefill : (b.refill now).tokens
      = Binary64.min (Binary64.fma (Duration.between b.lastRefill now).toSeconds b.rate b.tokens)
        (.ofNat burst) := by
    rw [← h.capacity]
    rfl
  rw [← hrefill] at hamount htokens
  exact ⟨h.rate, h.capacity, hamount, htokens⟩

/-- A token is spent if there is one. -/
theorem spend (h : Bounded rate burst b) (hburst : burst < 2 ^ 53)
    (hone : TokenArithmetic.holdsOne b.tokens = true) :
    Bounded rate burst
      { b with tokens := TokenArithmetic.sub b.tokens (TokenArithmetic.ofNat 1) } := by
  obtain ⟨q, hq, -, hle⟩ := h.tokens
  have hrest : 0 ≤ q - 1 := sub_nonneg.mpr ((holdsOne_iff hq).mp hone)
  have hsub : TokenArithmetic.sub b.tokens (TokenArithmetic.ofNat 1) = .round (q - 1) false :=
    h.amount.sub_eq_round hq Binary64.toRat?_one
  refine ⟨h.rate, h.capacity, ?_, ?_⟩
  · rw [hsub]
    exact Binary64.amount_round hrest
  · -- neither a zero nor the capacity is passed
    have hnone : Binary64.Has ((0 : ℕ) : ℚ) := Binary64.has_natCast (by norm_num)
    obtain ⟨p, hp, hlow, hhigh⟩ := Binary64.round_between hnone (Binary64.has_natCast hburst)
      (by rwa [Nat.cast_zero]) ((sub_le_self q zero_le_one).trans hle) false
    exact ⟨p, by rw [hsub, hp], by rwa [Nat.cast_zero] at hlow, hhigh⟩

/-- **An attempt** leaves a bucket in bounds, -/
theorem acquireAt (h : Bounded rate burst b) (hburst : burst < 2 ^ 53) {m : ℕ} {e : ℤ}
    (hrate : rate = .finite false (m + 1) e) (now : ℤ) :
    Bounded rate burst (b.acquireAt now).2 :=
  acquireAt_keeps (fun _ now hb => hb.refill hburst hrate now)
    (fun _ hb hone => hb.spend hburst hone) h now

/-- and so do any number of them. -/
theorem run (h : Bounded rate burst b) (hburst : burst < 2 ^ 53) {m : ℕ} {e : ℤ}
    (hrate : rate = .finite false (m + 1) e) (instants : List ℤ) :
    Bounded rate burst (b.run instants).2 :=
  run_keeps (fun _ now hb => hb.acquireAt hburst hrate now) h instants

/-- **The wait of a bucket that holds less than a token** is an amount. -/
theorem amount_wait (h : Bounded rate burst b) {m : ℕ} {e : ℤ}
    (hrate : rate = .finite false (m + 1) e)
    (hless : ¬TokenArithmetic.holdsOne b.tokens = true) :
    (Binary64.div (.sub (.ofNat 1) b.tokens) rate).Amount := by
  obtain ⟨q, hq, -, -⟩ := h.tokens
  have hmissing : 0 ≤ 1 - q :=
    sub_nonneg.mpr (not_le.mp (mt (holdsOne_iff hq).mpr hless)).le
  have hone : (Binary64.ofNat 1).Amount := Binary64.amount_round (Nat.cast_nonneg 1)
  rw [hone.sub_eq_round Binary64.toRat?_one hq, hrate]
  exact (Binary64.amount_round hmissing).div m e

end Bounded

/-- **Whatever the instants of the attempts**, the tokens of a bucket are in bounds, and what is
told to an attempt that is turned away is a time. -/
theorem run_bounded {rate : Binary64} (hfinite : rate.isFinite = true)
    (hpositive : Binary64.lt (.zero false) rate = true) {burst : ℕ} (hburst : burst < 2 ^ 32)
    (created : ℤ) (instants : List ℤ) :
    let b := ((full rate burst created).run instants).2
    (∃ tokens : ℚ, b.tokens.toRat? = some tokens ∧ b.capacity.toRat? = some (burst : ℚ) ∧
      0 ≤ tokens ∧ tokens ≤ burst) ∧
    b.lastRefill = instants.foldl max created ∧
    ∀ now retryAfter, (b.acquireAt now).1 = .rejected retryAfter →
      let quotient := Binary64.div (.sub (.ofNat 1) (b.refill now).tokens) rate
      quotient ≠ .nan ∧ quotient.isNegative = false ∧
        Binary64.lt quotient (.zero false) = false ∧
        (retryAfter = .longest ↔
          quotient = .infinite false ∨
            ∃ seconds, quotient.toRat? = some seconds ∧ 2 ^ 64 ≤ seconds) := by
  intro b
  have hdigits : burst < 2 ^ 53 := lt_trans hburst (by norm_num)
  obtain ⟨m, e, hrate⟩ := Binary64.exists_of_positive hfinite hpositive
  have hbounded : Bounded rate burst b :=
    (bounded_full hdigits rate created).run hdigits hrate instants
  refine ⟨?_, run_lastRefill _ instants, fun now retryAfter hrejected => ?_⟩
  · obtain ⟨tokens, htokens, hlow, hhigh⟩ := hbounded.tokens
    refine ⟨tokens, htokens, ?_, hlow, hhigh⟩
    rw [hbounded.capacity, Binary64.ofNat_exact hdigits]
  -- the promised wait is a quotient that is an amount, whatever the bucket lacks
  · have hrefilled := hbounded.refill hdigits hrate now
    have hadmission : (b.acquireAt now).1 = if TokenArithmetic.holdsOne (b.refill now).tokens
        then .admitted else .rejected (b.refill now).wait := by
      unfold Bucket.acquireAt
      simp only
      split_ifs <;> rfl
    rw [hadmission] at hrejected
    split_ifs at hrejected with hone
    have hquotient := hrefilled.amount_wait hrate hone
    have hwait : retryAfter = (Duration.ofSeconds?
        (Binary64.div (.sub (.ofNat 1) (b.refill now).tokens) rate)).getD .longest := by
      rw [← Admission.rejected.inj hrejected, ← hrefilled.rate]
      rfl
    refine ⟨hquotient.not_nan, hquotient.isNegative, hquotient.not_lt_zero, ?_⟩
    rw [hwait]
    exact Duration.saturates_iff hquotient

/-- Attempts at instants that go back, with the least rate of all. -/
theorem run_bounded_back :
    let rate : Binary64 := .finite false 1 (-1074)
    let b := ((full rate 1 0).run [5, -3]).2
    (∃ tokens : ℚ, b.tokens.toRat? = some tokens ∧ b.capacity.toRat? = some ((1 : ℕ) : ℚ) ∧
      0 ≤ tokens ∧ tokens ≤ (1 : ℕ)) ∧
    b.lastRefill = 5 ∧
    (b.acquireAt 2).1 = .rejected .longest ∧
      let quotient := Binary64.div (.sub (.ofNat 1) (b.refill 2).tokens) rate
      quotient = .infinite false ∨
        ∃ seconds, quotient.toRat? = some seconds ∧ 2 ^ 64 ≤ seconds := by
  intro rate b
  obtain ⟨htokens, hlast, hwaits⟩ := run_bounded (show rate.isFinite = true from rfl)
    (by decide +kernel) (show 1 < 2 ^ 32 by norm_num) 0 [5, -3]
  have hrejected : (b.acquireAt 2).1 = .rejected .longest := by decide +kernel
  exact ⟨htokens, hlast, hrejected, (hwaits 2 .longest hrejected).2.2.2.mp rfl⟩

end Bucket

end HttpPipeline
