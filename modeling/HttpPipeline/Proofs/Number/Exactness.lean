import HttpPipeline.Proofs.Number.Amounts
import HttpPipeline.Proofs.Number.Nearness

/-!
# Operations and their exact results

An operation on amounts gives the exact result, rounded once (`Binary64.Amount.fma_eq_round`,
`Binary64.Amount.div_eq_round`). Two results are not changed by that: to a number of the format
nothing is added (`Binary64.Has.rounded_eq`), and from one that is not too large one is taken away
(`Binary64.Has.sub_one`), because its digits reach down to the same place as before.

Near one and among large numbers the format has gaps. A number below one is less by `2 ^ (-53)`
(`Binary64.Has.le_one_sub`), and from `2 ^ 52` on all numbers are whole (`Binary64.Has.whole`).
A time of whole seconds is converted without error, if their number is of the format
(`Duration.toSeconds_whole`).
-/

namespace HttpPipeline

namespace Binary64

/-! ### Numbers of the format -/

section Format

variable {q : ℚ}

theorem rounded_zero : rounded 0 = 0 := by
  have hnearest : nearest ((0 : ℤ) : ℚ) = 0 := nearest_intCast 0
  rw [Int.cast_zero] at hnearest
  rw [rounded, zero_mul, hnearest, Int.cast_zero, zero_mul]

/-- **A number of the format is not changed** by rounding. -/
theorem Has.rounded_eq (h : Has q) : rounded q = q := by
  rcases h.nonneg.eq_or_lt with rfl | hq
  · exact rounded_zero
  · exact le_antisymm (rounded_le hq h le_rfl) (le_rounded hq h le_rfl)

/-- A number of the format counts its units. -/
theorem Has.units (h : Has q) (hq : 0 < q) :
    ∃ n : ℤ, q = n * 2 ^ roundingExponent q ∧ n < 2 ^ 53 := by
  obtain ⟨n, hn⟩ := h.multiple (q := q) fun hmin => unit_le hq hmin
  have hdigits := lt_unit hq
  rw [zpow_add₀ two_ne_zero, mul_comm] at hdigits
  refine ⟨n, hn, ?_⟩
  have hcast : (n : ℚ) < 2 ^ (53 : ℤ) := by
    refine lt_of_mul_lt_mul_right ?_ (zpow_pos two_pos (roundingExponent q)).le
    rwa [← hn]
  exact_mod_cast hcast

/-- **One taken away** from a number that is not too large leaves a number of the format: one is
as many whole units, and what is left has no more digits. -/
theorem Has.sub_one (h : Has q) (hone : 1 ≤ q) (hhigh : q < 2 ^ 53) : Has (q - 1) := by
  have hq : 0 < q := by linarith
  obtain ⟨n, hn, hdigits⟩ := h.units hq
  have hmin := minExponent_le_roundingExponent q
  have hlog : Int.log 2 q < 53 := by
    refine (Int.lt_zpow_iff_log_lt (by norm_num) hq).mp ?_
    exact_mod_cast hhigh
  have hexponent : roundingExponent q ≤ 0 := by
    unfold roundingExponent minExponent
    rw [binaryLog_eq hq]
    omega
  set e := roundingExponent q with he
  -- one is a whole number of units, and `q` has at least as many
  have hunits : (1 : ℚ) = ((2 ^ (-e).toNat : ℕ) : ℚ) * 2 ^ e := by
    rw [Nat.cast_pow, Nat.cast_ofNat, ← zpow_natCast, Int.toNat_of_nonneg (by omega),
      ← zpow_add₀ two_ne_zero, neg_add_cancel, zpow_zero]
  have henough : ((2 ^ (-e).toNat : ℕ) : ℤ) ≤ n := by
    have hcast : (((2 ^ (-e).toNat : ℕ) : ℤ) : ℚ) ≤ n := by
      refine le_of_mul_le_mul_right ?_ (zpow_pos (two_pos (α := ℚ)) e)
      rw [← hn, Int.cast_natCast, ← hunits]
      exact hone
    exact_mod_cast hcast
  have hpower : 0 < 2 ^ (-e).toNat := Nat.two_pow_pos _
  refine ⟨(n - (2 ^ (-e).toNat : ℕ)).toNat, e, by omega, hmin,
    hexponent.trans (by decide), ?_⟩
  have hcast : (((n - (2 ^ (-e).toNat : ℕ)).toNat : ℕ) : ℚ) = n - (2 ^ (-e).toNat : ℕ) := by
    rw [← Int.cast_natCast, Int.toNat_of_nonneg (by omega)]
    push_cast
    rfl
  rw [hcast, sub_mul, ← hn, ← hunits]

/-- **The gap below one.** -/
theorem Has.le_one_sub (h : Has q) (hone : q < 1) : q ≤ 1 - 1 / 2 ^ 53 := by
  by_cases hhalf : 1 / 2 ≤ q
  · obtain ⟨n, hn, hdigits⟩ := h.units (by linarith)
    rw [roundingExponent_half hhalf hone] at hn
    have hcast : (n : ℚ) ≤ 2 ^ 53 - 1 := by
      have hle : n ≤ 2 ^ 53 - 1 := by omega
      exact_mod_cast hle
    calc q = n * 2 ^ (-53 : ℤ) := hn
      _ ≤ (2 ^ 53 - 1) * 2 ^ (-53 : ℤ) := by gcongr
      _ = 1 - 1 / 2 ^ 53 := by norm_num
  · have hsmall : (1 : ℚ) / 2 ≤ 1 - 1 / 2 ^ 53 := by norm_num
    linarith

/-- **Large numbers are whole.** -/
theorem Has.whole (h : Has q) (hlarge : 2 ^ 52 ≤ q) : ∃ n : ℕ, q = n := by
  have hq : 0 < q := lt_of_lt_of_le (by norm_num) hlarge
  obtain ⟨n, hn, -⟩ := h.units hq
  -- the unit is one or more, so a number of units is whole
  have hlog : 52 ≤ Int.log 2 q := by
    refine (Int.zpow_le_iff_le_log (by norm_num) hq).mp ?_
    exact_mod_cast hlarge
  have hexponent : 0 ≤ roundingExponent q := by
    unfold roundingExponent
    rw [binaryLog_eq hq]
    omega
  have hpower : (2 : ℚ) ^ roundingExponent q = ((2 ^ (roundingExponent q).toNat : ℤ) : ℚ) := by
    rw [Int.cast_pow, Int.cast_ofNat, ← zpow_natCast, Int.toNat_of_nonneg hexponent]
  have hint : q = ((n * 2 ^ (roundingExponent q).toNat : ℤ) : ℚ) := by
    rw [Int.cast_mul, ← hpower]
    exact hn
  refine ⟨(n * 2 ^ (roundingExponent q).toNat).toNat, ?_⟩
  have hnonneg : (0 : ℤ) ≤ n * 2 ^ (roundingExponent q).toNat := by
    rw [hint] at hq
    exact_mod_cast hq.le
  rw [← Int.cast_natCast, Int.toNat_of_nonneg hnonneg]
  exact hint

end Format

/-! ### Values -/

/-- What is in range has the value it is rounded to. -/
theorem toRat?_round {q : ℚ} (hq : 0 < q) (hrange : rounded q < 2 ^ (1024 : ℤ)) :
    (round q false).toRat? = some (rounded q) := by
  rcases round_cases hq false with ⟨-, hover⟩ | ⟨m, e, hround, -, -, -, hvalue⟩
  · exact absurd hrange (not_lt.mpr hover)
  · rw [hround, toRat?_finite, hvalue]

/-- A number whose value, if it has one, is of the format. -/
def Representable (x : Binary64) : Prop :=
  ∀ q, x.toRat? = some q → Has q

theorem representable_round {q : ℚ} (hq : 0 ≤ q) : Representable (round q false) := by
  intro p hp
  rcases hq.eq_or_lt with rfl | hq
  · rw [round, if_pos rfl, toRat?_zero] at hp
    obtain rfl := Option.some.inj hp
    exact has_zero
  · rcases round_cases hq false with ⟨hround, -⟩ | ⟨m, e, hround, hm, hmin, hmax, -⟩
    · rw [hround] at hp
      exact absurd hp (by simp [toRat?])
    · rw [hround, toRat?_finite] at hp
      exact ⟨m, e, hm, hmin, hmax, Option.some.inj hp⟩

theorem Representable.min {x y : Binary64} (hx : Representable x) (hy : Representable y) :
    Representable (Binary64.min x y) := by
  unfold Binary64.min
  split
  · exact hy
  · exact hx
  · split_ifs
    · exact hy
    · exact hx

/-- The value of the lesser is the lesser value. -/
theorem toRat?_min {x y : Binary64} {p q : ℚ} (hx : x.toRat? = some p) (hy : y.toRat? = some q) :
    (Binary64.min x y).toRat? = some (Min.min p q) := by
  have hmin : Binary64.min x y = if lt y x then y else x := by
    obtain ⟨negative, m, e, rfl⟩ := exists_of_value hx
    obtain ⟨negative', m', e', rfl⟩ := exists_of_value hy
    rfl
  rw [hmin]
  split_ifs with hlt
  · rw [hy, min_eq_right ((lt_iff_value hy hx).mp hlt).le]
  · rw [hx, min_eq_left (not_lt.mp (mt (lt_iff_value hy hx).mpr hlt))]

/-- **What is rounded and cut at a number** has the lesser value, even if it is out of range
before it is cut. -/
theorem toRat?_min_round {q c : ℚ} (hq : 0 ≤ q) {y : Binary64} (hy : y.toRat? = some c)
    (hc : c ≤ 2 ^ (1024 : ℤ)) :
    (Binary64.min (round q false) y).toRat? = some (Min.min (rounded q) c) := by
  rcases hq.eq_or_lt with rfl | hq
  · rw [rounded_zero]
    exact toRat?_min (by rw [round, if_pos rfl, toRat?_zero]) hy
  · rcases round_cases hq false with ⟨hround, hover⟩ | ⟨m, e, hround, -, -, -, hvalue⟩
    · -- what is out of range is rounded to infinity, which is beyond every number
      obtain ⟨negative, m, e, rfl⟩ := exists_of_value hy
      rw [hround, min_eq_right (hc.trans hover), ← hy]
      rfl
    · refine toRat?_min ?_ hy
      rw [hround, toRat?_finite, hvalue]

/-! ### Operations -/

namespace Amount

variable {x z : Binary64} {p q r : ℚ} {m : ℕ} {e : ℤ}

theorem fma_eq_round (hx : Amount x) (hp : x.toRat? = some p)
    (hr : (Binary64.finite false (m + 1) e).toRat? = some r) (hz : Amount z)
    (hq : z.toRat? = some q) :
    Binary64.fma x (.finite false (m + 1) e) z = round (p * r + q) false := by
  cases hx with
  | infinite => exact absurd hp (by simp [toRat?])
  | finite hm f =>
    cases hz with
    | infinite => exact absurd hq (by simp [toRat?])
    | finite hm' f' =>
      show round (_ * _ + _) false = _
      rw [hp, hr, hq, Option.getD_some, Option.getD_some, Option.getD_some]

theorem div_eq_round (hx : Amount x) (hp : x.toRat? = some p)
    (hr : (Binary64.finite false (m + 1) e).toRat? = some r) :
    Binary64.div x (.finite false (m + 1) e) = round (p / r) false := by
  cases hx with
  | infinite => exact absurd hp (by simp [toRat?])
  | finite hm f =>
    show round (_ / _) false = _
    rw [hp, hr, Option.getD_some, Option.getD_some]

theorem fma_representable (hx : Amount x) (m : ℕ) (e : ℤ) (hz : Amount z) :
    Representable (Binary64.fma x (.finite false (m + 1) e) z) := by
  have hsum := representable_round (add_nonneg
    (mul_nonneg hx.value_nonneg (value_pos m e).le) hz.value_nonneg)
  have hinfinite : Representable (.infinite false) := fun q hq => absurd hq (by simp [toRat?])
  cases hx with
  | infinite => cases hz <;> exact hinfinite
  | finite hm f =>
    cases hz with
    | infinite => exact hinfinite
    | finite hm' f' => exact hsum

end Amount

end Binary64

/-! ### Whole seconds -/

namespace Duration

open Binary64

/-- Whole seconds are a number of the format if their number is. -/
theorem toSeconds_whole {n : ℕ} (hn : Has n) :
    (toSeconds ⟨n * perSecond⟩).toRat? = some (n : ℚ) := by
  have hseconds : seconds ⟨n * perSecond⟩ = n := Nat.mul_div_cancel n (by decide)
  have hsubsecond : subsecond ⟨n * perSecond⟩ = 0 := Nat.mul_mod_left n perSecond
  have hfraction : Binary64.ofNat 0 / Binary64.ofNat perSecond = zero false := by decide +kernel
  have hvalue : (Binary64.ofNat n).toRat? = some (n : ℚ) := round_exact hn false
  obtain ⟨negative, m, e, hfinite⟩ := exists_of_value hvalue
  rw [toSeconds, hseconds, hsubsecond, hfraction, hfinite]
  show (round (_ + (zero false).toRat?.getD 0) _).toRat? = _
  rw [← hfinite, hvalue, toRat?_zero, Option.getD_some, Option.getD_some, add_zero]
  exact round_exact hn _

end Duration

end HttpPipeline
