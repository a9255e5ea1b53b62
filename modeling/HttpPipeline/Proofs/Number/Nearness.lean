import HttpPipeline.Proofs.Number.Rounding
import Mathlib.Tactic.Linarith

/-!
# How far rounding goes

Rounding to the nearest whole number goes no further than a half (`abs_nearest_sub_le`), and what is
nearest to a greater number is not less (`nearest_mono`). Both carry over to the binary64 format:
there rounding goes no further than half a unit (`Binary64.abs_rounded_sub_le`), which away from the
least numbers is a part of `2 ^ 53` of the number itself (`Binary64.abs_rounded_sub_le_part`), and
it keeps the order (`Binary64.rounded_mono`).

Below one the unit is `2 ^ (-53)`. So the numbers that are rounded to one or more are those from
`1 - 2 ^ (-54)` on (`Binary64.one_le_rounded_iff`): the one in the middle goes to the even
neighbour, and that is one.
-/

namespace HttpPipeline

/-! ### Whole numbers -/

theorem abs_nearest_sub_le (q : ℚ) : |nearest q - q| ≤ 1 / 2 := by
  have hfloor : q.floor = ⌊q⌋ := rfl
  have hlow : (⌊q⌋ : ℚ) ≤ q := Int.floor_le q
  have hhigh : q < ⌊q⌋ + 1 := Int.lt_floor_add_one q
  unfold nearest
  simp only [hfloor]
  rw [abs_le]
  split_ifs with hbelow habove heven
  · constructor <;> linarith
  · push_cast
    constructor <;> linarith
  · constructor <;> linarith
  · push_cast
    constructor <;> linarith

/-- **The order is kept.** If the nearest numbers were the other way round, each of the two would
lie on the wrong side of the middle between them, unless they were the same. -/
theorem nearest_mono {a b : ℚ} (h : a ≤ b) : nearest a ≤ nearest b := by
  by_contra hless
  have hgap : nearest b + 1 ≤ nearest a := not_le.mp hless
  have hgap' : (nearest b : ℚ) + 1 ≤ nearest a := by exact_mod_cast hgap
  have ha := abs_le.mp (abs_nearest_sub_le a)
  have hb := abs_le.mp (abs_nearest_sub_le b)
  obtain rfl : a = b := by linarith
  exact hless le_rfl

namespace Binary64

/-! ### Units -/

section Unit

variable {q : ℚ}

/-- A greater number has no lesser unit. -/
theorem roundingExponent_mono {a b : ℚ} (ha : 0 < a) (h : a ≤ b) :
    roundingExponent a ≤ roundingExponent b := by
  have hlog : binaryLog a ≤ binaryLog b := by
    rw [binaryLog_eq ha, binaryLog_eq (ha.trans_le h)]
    exact Int.log_mono_right ha h
  unfold roundingExponent
  omega

/-- Between a half and one, numbers are rounded to 53 places. -/
theorem roundingExponent_half (hlow : 1 / 2 ≤ q) (hhigh : q < 1) : roundingExponent q = -53 := by
  have hq : 0 < q := by linarith
  have hle : -1 ≤ Int.log 2 q := by
    refine (Int.zpow_le_iff_le_log (by norm_num) hq).mp ?_
    calc ((2 : ℕ) : ℚ) ^ (-1 : ℤ) = 1 / 2 := by norm_num
      _ ≤ q := hlow
  have hlt : Int.log 2 q < 0 := by
    refine (Int.lt_zpow_iff_log_lt (by norm_num) hq).mp ?_
    rw [zpow_zero]
    exact hhigh
  unfold roundingExponent minExponent
  rw [binaryLog_eq hq]
  omega

/-- From the least number with all its digits on, a unit is a part of `2 ^ 52` at most. -/
theorem unit_le_of_normal (hq : 2 ^ (-1022 : ℤ) ≤ q) : 2 ^ (roundingExponent q + 52) ≤ q := by
  have hpos : 0 < q := lt_of_lt_of_le (by positivity) hq
  by_cases h : minExponent < roundingExponent q
  · exact unit_le hpos h
  · have hleast : roundingExponent q = -1074 :=
      le_antisymm (not_lt.mp h) (minExponent_le_roundingExponent q)
    rw [hleast]
    exact hq

/-! ### The error -/

/-- **Half a unit.** -/
theorem abs_rounded_sub_le (q : ℚ) : |rounded q - q| ≤ 2 ^ roundingExponent q / 2 := by
  have hunits : q = q * 2 ^ (-roundingExponent q) * 2 ^ roundingExponent q := by
    rw [mul_assoc, ← zpow_add₀ two_ne_zero, neg_add_cancel, zpow_zero, mul_one]
  have hsplit : rounded q - q =
      (nearest (q * 2 ^ (-roundingExponent q)) - q * 2 ^ (-roundingExponent q))
        * 2 ^ roundingExponent q := by
    rw [sub_mul, ← hunits, rounded]
  have hpower : (0 : ℚ) < 2 ^ roundingExponent q := by positivity
  calc |rounded q - q|
      = |nearest (q * 2 ^ (-roundingExponent q)) - q * 2 ^ (-roundingExponent q)|
          * 2 ^ roundingExponent q := by rw [hsplit, abs_mul, abs_of_pos hpower]
    _ ≤ 1 / 2 * 2 ^ roundingExponent q := by
        gcongr
        exact abs_nearest_sub_le _
    _ = 2 ^ roundingExponent q / 2 := by ring

/-- **A part of `2 ^ 53`** of the number. -/
theorem abs_rounded_sub_le_part (hq : 2 ^ (-1022 : ℤ) ≤ q) : |rounded q - q| ≤ q / 2 ^ 53 := by
  have hunit := unit_le_of_normal hq
  rw [zpow_add₀ two_ne_zero] at hunit
  calc |rounded q - q| ≤ 2 ^ roundingExponent q / 2 := abs_rounded_sub_le q
    _ = 2 ^ roundingExponent q * 2 ^ (52 : ℤ) / 2 ^ 53 := by
        norm_num
        ring
    _ ≤ q / 2 ^ 53 := by gcongr

/-- Below one, half a unit is no more than `2 ^ (-54)`. -/
theorem abs_rounded_sub_le_below_one (hq : 0 < q) (hone : q < 1) :
    |rounded q - q| ≤ 1 / 2 ^ 54 := by
  have hexponent : roundingExponent q ≤ -53 := by
    rw [← roundingExponent_half (q := max q (1 / 2)) (le_max_right _ _)
      (max_lt hone (by norm_num))]
    exact roundingExponent_mono hq (le_max_left _ _)
  have hpower : (2 : ℚ) ^ roundingExponent q ≤ 2 ^ (-53 : ℤ) :=
    zpow_le_zpow_right₀ (by norm_num) hexponent
  calc |rounded q - q| ≤ 2 ^ roundingExponent q / 2 := abs_rounded_sub_le q
    _ ≤ 2 ^ (-53 : ℤ) / 2 := by gcongr
    _ = 1 / 2 ^ 54 := by norm_num

/-! ### The order -/

/-- **Rounding keeps the order.** In one unit the nearest multiples are in order. Of two numbers
with different units, the one with the lesser reaches as far as its digits go, and there the
other begins. -/
theorem rounded_mono {a b : ℚ} (ha : 0 < a) (h : a ≤ b) : rounded a ≤ rounded b := by
  have hexponent := roundingExponent_mono ha h
  -- with one exponent the digits decide; else a power of two lies between the two
  by_cases hsame : roundingExponent a = roundingExponent b
  · have hnearest : nearest (a * 2 ^ (-roundingExponent a)) ≤
        nearest (b * 2 ^ (-roundingExponent b)) := by
      rw [hsame]
      refine nearest_mono ?_
      gcongr
    have hcast : (nearest (a * 2 ^ (-roundingExponent a)) : ℚ) ≤
        nearest (b * 2 ^ (-roundingExponent b)) := by exact_mod_cast hnearest
    rw [rounded, rounded, ← hsame]
    rw [← hsame] at hcast
    gcongr
  · have hless : roundingExponent a < roundingExponent b := lt_of_le_of_ne hexponent hsame
    have hnormal : minExponent < roundingExponent b :=
      (minExponent_le_roundingExponent a).trans_lt hless
    have hcarry : (nearest (a * 2 ^ (-roundingExponent a)) : ℚ) ≤ 2 ^ (53 : ℤ) := by
      exact_mod_cast nearest_le_carry ha
    calc rounded a ≤ 2 ^ (53 : ℤ) * 2 ^ roundingExponent a := by
          unfold rounded
          gcongr
      _ = 2 ^ (roundingExponent a + 53) := by rw [zpow_add₀ two_ne_zero, mul_comm]
      _ ≤ 2 ^ (roundingExponent b + 52) := zpow_le_zpow_right₀ (by norm_num) (by omega)
      _ ≤ rounded b := unit_le_rounded (ha.trans_le h) hnormal

/-- **What is rounded to one or more.** -/
theorem one_le_rounded_iff (hq : 0 < q) : 1 ≤ rounded q ↔ 1 - 1 / 2 ^ 54 ≤ q := by
  have hplaces : (2 : ℚ) ^ (-53 : ℤ) = 1 / 2 ^ 53 := by norm_num
  have hplaces' : (2 : ℚ) ^ (53 : ℤ) = 2 ^ 53 := by norm_num
  constructor
  · intro hone
    by_contra hless
    rw [not_le] at hless
    by_cases hhalf : 1 / 2 ≤ q
    · -- less than half a unit is missing where the nearest is one
      have herror := abs_le.mp (abs_rounded_sub_le q)
      rw [roundingExponent_half hhalf (by linarith), hplaces] at herror
      linarith [herror.2]
    · have hhas : Has (1 / 2) :=
        ⟨1, -1, by norm_num, by decide, by decide, by norm_num⟩
      have hle := rounded_le hq hhas (not_le.mp hhalf).le
      linarith
  · intro hnear
    by_cases hone : 1 ≤ q
    · exact le_rounded hq has_one hone
    · have hhalf : 1 / 2 ≤ q := by linarith
      -- the middle between one and its neighbour goes to one, which is even
      have hmiddle : nearest (2 ^ 53 - 1 / 2) = 2 ^ 53 := by decide +kernel
      have hle : nearest (2 ^ 53 - 1 / 2) ≤ nearest (q * 2 ^ (53 : ℤ)) := by
        refine nearest_mono ?_
        rw [hplaces']
        linarith
      have hcast : ((2 ^ 53 : ℤ) : ℚ) ≤ nearest (q * 2 ^ (53 : ℤ)) := by
        rw [hmiddle] at hle
        exact_mod_cast hle
      rw [rounded, roundingExponent_half hhalf (not_le.mp hone), neg_neg, hplaces]
      push_cast at hcast
      linarith

end Unit

end Binary64

end HttpPipeline
