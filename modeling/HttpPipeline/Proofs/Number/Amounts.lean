import HttpPipeline.Number.Duration
import HttpPipeline.Proofs.Number.Rounding
import Mathlib.Tactic.Linarith

/-!
# Amounts

An amount is a floating-point number that is not below zero and has a value; it may be infinite
(`Binary64.Amount`). Amounts may be added, multiplied and divided by a positive number, and a span
of time is one: nothing of this gives a number without a value. Two operations would, an infinity
less an infinity and an infinity by a zero, and they do not come up.

A number of seconds that the format has is `2 ^ 64` or more, or it is less by thousands of seconds.
So it makes no difference that it is compared with that bound only when it was rounded to
nanoseconds (`Duration.saturates_iff`).
-/

namespace HttpPipeline

namespace Binary64

/-! ### Values in order -/

section Order

variable {x y : Binary64} {p q : ℚ}

/-- What has a value is finite. -/
theorem exists_of_value (hx : x.toRat? = some p) : ∃ negative m e, x = .finite negative m e := by
  cases x with
  | nan => exact absurd hx (by simp [toRat?])
  | infinite negative => exact absurd hx (by simp [toRat?])
  | finite negative m e => exact ⟨negative, m, e, rfl⟩

theorem lt_iff_value (hx : x.toRat? = some p) (hy : y.toRat? = some q) :
    lt x y = true ↔ p < q := by
  obtain ⟨negative, m, e, rfl⟩ := exists_of_value hx
  obtain ⟨negative', m', e', rfl⟩ := exists_of_value hy
  rw [lt, hx, hy, decide_eq_true_iff, Option.getD_some, Option.getD_some]

theorem le_iff_value (hx : x.toRat? = some p) (hy : y.toRat? = some q) :
    le x y = true ↔ p ≤ q := by
  have hle : le x y = !lt y x := by
    obtain ⟨negative, m, e, rfl⟩ := exists_of_value hx
    obtain ⟨negative', m', e', rfl⟩ := exists_of_value hy
    rfl
  rw [hle, Bool.not_eq_true', ← Bool.not_eq_true, lt_iff_value hy hx, not_lt]

end Order

theorem value_pos (m : ℕ) (e : ℤ) : 0 < (finite false (m + 1) e).toRat?.getD 0 := by
  rw [toRat?_finite, Option.getD_some]
  positivity

/-- A finite number that is positive. -/
theorem exists_of_positive {x : Binary64} (hfinite : x.isFinite = true)
    (hpositive : lt (zero false) x = true) : ∃ m e, x = .finite false (m + 1) e := by
  cases x with
  | nan => exact absurd hfinite Bool.false_ne_true
  | infinite negative => exact absurd hfinite Bool.false_ne_true
  | finite negative m e =>
    have hvalue : 0 < (if negative then -1 else 1) * (m : ℚ) * powerOfTwo e :=
      (lt_iff_value (toRat?_zero false) rfl).mp hpositive
    have hpower : 0 < powerOfTwo e := by
      rw [powerOfTwo_eq]
      positivity
    -- above zero, the sign is plus and the digits are not all zero
    cases negative with
    | true =>
      have hle : -1 * (m : ℚ) * powerOfTwo e ≤ 0 := by
        rw [neg_one_mul, neg_mul, neg_nonpos]
        positivity
      exact absurd hvalue (not_lt.mpr hle)
    | false =>
      cases m with
      | zero => simp at hvalue
      | succ m => exact ⟨m, e, rfl⟩

/-! ### Computing with amounts -/

/-- **An amount**, infinite or with a significand of 53 digits. -/
inductive Amount : Binary64 → Prop
  | infinite : Amount (.infinite false)
  | finite {m : ℕ} (hm : m < 2 ^ 53) (e : ℤ) : Amount (.finite false m e)

/-- **Rounding** gives an amount. -/
theorem amount_round {q : ℚ} (hq : 0 ≤ q) : Amount (round q false) := by
  rcases hq.eq_or_lt with rfl | hq
  · exact .finite (by norm_num) _
  · rcases round_cases hq false with ⟨hround, -⟩ | ⟨m, e, hround, hm, -⟩
    · rw [hround]
      exact .infinite
    · rw [hround]
      exact .finite hm e

namespace Amount

variable {x y z : Binary64}

theorem not_nan (h : Amount x) : x ≠ .nan := by
  cases h <;> simp

theorem isNegative (h : Amount x) : x.isNegative = false := by
  cases h <;> rfl

theorem not_lt_zero (h : Amount x) : lt x (zero false) = false := by
  cases h with
  | infinite => rfl
  | @finite m hm e =>
    have hnonneg : ¬(m : ℚ) * 2 ^ e < 0 := not_lt.mpr (by positivity)
    rwa [← lt_iff_value (toRat?_finite m e) (toRat?_zero false), Bool.not_eq_true] at hnonneg

theorem value_nonneg (h : Amount x) : 0 ≤ x.toRat?.getD 0 := by
  cases h with
  | infinite => exact le_rfl
  | finite hm e =>
    rw [toRat?_finite, Option.getD_some]
    positivity

theorem add (hx : Amount x) (hy : Amount y) : Amount (Binary64.add x y) := by
  have hsum := amount_round (add_nonneg hx.value_nonneg hy.value_nonneg)
  cases hx with
  | infinite => cases hy <;> exact .infinite
  | finite hm e =>
    cases hy with
    | infinite => exact .infinite
    | finite hm' e' => exact hsum

/-- Multiplied by a positive number and added to. -/
theorem fma (hx : Amount x) (m : ℕ) (e : ℤ) (hz : Amount z) :
    Amount (Binary64.fma x (.finite false (m + 1) e) z) := by
  have hsum := amount_round (add_nonneg (mul_nonneg hx.value_nonneg (value_pos m e).le)
    hz.value_nonneg)
  cases hx with
  | infinite => cases hz <;> exact .infinite
  | finite hm f =>
    cases hz with
    | infinite => exact .infinite
    | finite hm' e' => exact hsum

/-- Divided by a positive number. -/
theorem div (hx : Amount x) (m : ℕ) (e : ℤ) :
    Amount (Binary64.div x (.finite false (m + 1) e)) := by
  have hquotient := amount_round (div_nonneg hx.value_nonneg (value_pos m e).le)
  cases hx with
  | infinite => exact .infinite
  | finite hm f => exact hquotient

/-- **A difference** that is not below zero is the exact one, rounded. -/
theorem sub_eq_round (hx : Amount x) {p q : ℚ} (hp : x.toRat? = some p) (hq : y.toRat? = some q) :
    Binary64.sub x y = round (p - q) false := by
  obtain ⟨negative, m, e, rfl⟩ := exists_of_value hq
  have hneg : (neg (.finite negative m e)).toRat? = some (-q) := by
    obtain rfl := Option.some.inj hq
    cases negative <;> simp [neg, toRat?]
  cases hx with
  | infinite => exact absurd hp (by simp [toRat?])
  | finite hm f =>
    show round (_ + (neg _).toRat?.getD 0) false = _
    rw [hneg, hp, Option.getD_some, Option.getD_some, sub_eq_add_neg]

/-- **The lesser** of an amount and a finite one is no more than that. -/
theorem min_le (hx : Amount x) (hy : Amount y) {c : ℚ} (hc : y.toRat? = some c) :
    Amount (Binary64.min x y) ∧ ∃ q, (Binary64.min x y).toRat? = some q ∧ 0 ≤ q ∧ q ≤ c := by
  have hc0 : 0 ≤ c := by simpa [hc] using hy.value_nonneg
  cases hy with
  | infinite => exact absurd hc (by simp [toRat?])
  | finite hm' e' =>
    cases hx with
    | infinite => exact ⟨.finite hm' e', c, hc, hc0, le_rfl⟩
    | finite hm e =>
      unfold Binary64.min
      simp only
      split_ifs with hlt
      · exact ⟨.finite hm' e', c, hc, hc0, le_rfl⟩
      · refine ⟨.finite hm e, _, toRat?_finite _ e, by positivity, ?_⟩
        exact not_lt.mp (mt (lt_iff_value hc (toRat?_finite _ e)).mpr hlt)

end Amount

end Binary64

/-! ### Spans of time -/

namespace Duration

open Binary64

/-- **A span of time** in seconds is an amount. -/
theorem amount_toSeconds (d : Duration) : Amount d.toSeconds := by
  have hexact := ofNat_exact (n := perSecond) (by decide)
  obtain ⟨m, e, hsecond⟩ : ∃ m e, Binary64.ofNat perSecond = .finite false (m + 1) e := by
    refine exists_of_positive ?_ ?_
    · obtain ⟨negative, m, e, hfinite⟩ := exists_of_value hexact
      rw [hfinite]
      rfl
    · exact (lt_iff_value (toRat?_zero false) hexact).mpr (by decide)
  have hfraction := (amount_round (Nat.cast_nonneg d.subsecond)).div m e
  rw [← hsecond] at hfraction
  exact (amount_round (Nat.cast_nonneg d.seconds)).add hfraction

/-- A number of the format below `2 ^ 64` is less by a unit. -/
theorem le_of_lt_bound {m : ℕ} (hm : m < 2 ^ 53) {e : ℤ} (h : (m : ℚ) * 2 ^ e < 2 ^ 64) :
    (m : ℚ) * 2 ^ e ≤ 2 ^ 64 - 2 ^ 11 := by
  -- it is no more than a multiple of that unit, of as few digits
  obtain ⟨k, hk, hle⟩ : ∃ k : ℕ, k < 2 ^ 53 ∧ (m : ℚ) * 2 ^ e ≤ k * 2 ^ 11 := by
    by_cases he : e ≤ 11
    · refine ⟨m, hm, ?_⟩
      have hpower : (2 : ℚ) ^ e ≤ 2 ^ (11 : ℤ) := zpow_le_zpow_right₀ (by norm_num) he
      have hcast : (2 : ℚ) ^ (11 : ℤ) = 2 ^ 11 := by norm_num
      rw [← hcast]
      gcongr
    · have hvalue : (m : ℚ) * 2 ^ e = (m * 2 ^ (e - 11).toNat : ℕ) * 2 ^ 11 := by
        have hsplit : e = (e - 11).toNat + 11 := by omega
        conv_lhs => rw [hsplit, zpow_add₀ two_ne_zero, zpow_natCast]
        push_cast
        ring
      refine ⟨_, ?_, hvalue.le⟩
      rw [hvalue] at h
      have hlt : (m * 2 ^ (e - 11).toNat) * 2 ^ 11 < 2 ^ 64 := by exact_mod_cast h
      omega
  have hcast : (k : ℚ) ≤ 2 ^ 53 - 1 := by
    have hle : k + 1 ≤ 2 ^ 53 := hk
    have hle' : (k : ℚ) + 1 ≤ 2 ^ 53 := by exact_mod_cast hle
    linarith
  calc (m : ℚ) * 2 ^ e ≤ k * 2 ^ 11 := hle
    _ ≤ (2 ^ 53 - 1) * 2 ^ 11 := by gcongr
    _ = 2 ^ 64 - 2 ^ 11 := by norm_num

/-- **A number of seconds below the bound** is a time. It is rounded to the nearest nanosecond and
does not come near the bound by that. -/
theorem ofSeconds?_of_lt {x : Binary64} (hx : Amount x) {q : ℚ} (hq : x.toRat? = some q)
    (hless : q < 2 ^ 64) :
    ofSeconds? x = some ⟨(nearest (q * perSecond)).toNat⟩ ∧
      nearest (q * perSecond) ≤ (((2 ^ 64 - 2 ^ 11) * perSecond : ℕ) : ℤ) := by
  cases hx with
  | infinite => exact absurd hq (by simp [toRat?])
  | @finite m hm e =>
    obtain rfl := Option.some.inj ((toRat?_finite m e).symm.trans hq)
    have hnonneg : ¬(m : ℚ) * 2 ^ e < 0 := not_lt.mpr (by positivity)
    have hnearest : nearest ((m : ℚ) * 2 ^ e * perSecond)
        ≤ (((2 ^ 64 - 2 ^ 11) * perSecond : ℕ) : ℤ) := by
      refine nearest_le ?_
      have hcast : ((((2 ^ 64 - 2 ^ 11) * perSecond : ℕ) : ℤ) : ℚ)
          = (2 ^ 64 - 2 ^ 11) * perSecond := by norm_num
      rw [hcast]
      have hunit := le_of_lt_bound hm hless
      gcongr
    have hfar : (2 ^ 64 - 2 ^ 11) * perSecond + 1 < 2 ^ 64 * perSecond := by decide
    refine ⟨?_, hnearest⟩
    unfold ofSeconds?
    simp only [hq, decide_eq_false hnonneg, Bool.false_or, decide_eq_true_eq]
    rw [if_neg (by omega)]

/-- **A number of seconds saturates** if it is `2 ^ 64` or more, and not otherwise. -/
theorem saturates_iff {x : Binary64} (hx : Amount x) :
    (ofSeconds? x).getD longest = longest ↔
      x = .infinite false ∨ ∃ q, x.toRat? = some q ∧ 2 ^ 64 ≤ q := by
  cases hx with
  | infinite => exact ⟨fun _ => .inl rfl, fun _ => rfl⟩
  | @finite m hm e =>
    have hvalue := toRat?_finite m e
    have hnonneg : ¬(m : ℚ) * 2 ^ e < 0 := not_lt.mpr (by positivity)
    -- a wait of 2 ^ 64 seconds is too long for a duration; all below stay well under the longest
    by_cases hbound : (2 : ℚ) ^ 64 ≤ (m : ℚ) * 2 ^ e
    · have hreached : ((2 ^ 64 * perSecond : ℕ) : ℤ) ≤ nearest ((m : ℚ) * 2 ^ e * perSecond) := by
        refine le_nearest ?_
        have hcast : (((2 ^ 64 * perSecond : ℕ) : ℤ) : ℚ) = 2 ^ 64 * perSecond := by norm_num
        rw [hcast]
        gcongr
      have hnone : ofSeconds? (.finite false m e) = none := by
        unfold ofSeconds?
        simp only [hvalue, decide_eq_false hnonneg, Bool.false_or, decide_eq_true_eq]
        rw [if_pos hreached]
      rw [hnone]
      exact ⟨fun _ => .inr ⟨_, hvalue, hbound⟩, fun _ => rfl⟩
    · obtain ⟨hsome, hnearest⟩ := ofSeconds?_of_lt (.finite hm e) hvalue (not_le.mp hbound)
      have hfar : (2 ^ 64 - 2 ^ 11) * perSecond + 1 < 2 ^ 64 * perSecond := by decide
      rw [hsome]
      constructor
      · intro hsame
        have hnanos := congrArg Duration.nanoseconds hsame
        simp only [Option.getD_some, longest] at hnanos
        omega
      · rintro (hinfinite | ⟨q, hq, hle⟩)
        · exact absurd hinfinite (by simp)
        · obtain rfl := Option.some.inj (hvalue.symm.trans hq)
          exact absurd hle hbound

end Duration

end HttpPipeline
