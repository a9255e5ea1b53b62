import HttpPipeline.Number.Binary64
import Mathlib.Algebra.Order.Field.Power
import Mathlib.Data.Int.Log
import Mathlib.Data.Rat.Floor
import Mathlib.Tactic.Positivity
import Mathlib.Tactic.SplitIfs

/-!
# Rounding

Rounding to the nearest whole number does not pass a whole number (`le_nearest`, `nearest_le`). A
number of the binary64 format is rounded as a multiple of its unit, and every number of the format
in reach is a multiple of that unit too. So rounding to the format does not pass a number of the
format (`round_le`, `le_round`), and it is in range if such a number is not below. Nothing else
about rounding is needed to bound what is computed with it.
-/

namespace HttpPipeline

/-! ### Whole numbers -/

theorem floor_le_nearest (q : ℚ) : ⌊q⌋ ≤ nearest q := by
  have hfloor : q.floor = ⌊q⌋ := rfl
  unfold nearest
  simp only [hfloor]
  split_ifs <;> omega

theorem nearest_le_floor_add_one (q : ℚ) : nearest q ≤ ⌊q⌋ + 1 := by
  have hfloor : q.floor = ⌊q⌋ := rfl
  unfold nearest
  simp only [hfloor]
  split_ifs <;> omega

/-- A whole number is the nearest to itself. -/
theorem nearest_intCast (n : ℤ) : nearest (n : ℚ) = n := by
  have hfloor : (n : ℚ).floor = n := Rat.floor_intCast n
  unfold nearest
  simp only [hfloor, sub_self]
  rw [if_pos (by norm_num)]

/-- **Rounding does not pass a whole number** on the way down, -/
theorem le_nearest {q : ℚ} {n : ℤ} (h : n ≤ q) : n ≤ nearest q :=
  (Int.le_floor.mpr h).trans (floor_le_nearest q)

/-- nor on the way up. -/
theorem nearest_le {q : ℚ} {n : ℤ} (h : q ≤ n) : nearest q ≤ n := by
  rcases h.eq_or_lt with rfl | hlt
  · exact (nearest_intCast n).le
  · have hfloor : ⌊q⌋ < n := Int.floor_lt.mpr hlt
    have := nearest_le_floor_add_one q
    omega

/-! ### The binary scale -/

theorem powerOfTwo_eq (e : ℤ) : powerOfTwo e = (2 : ℚ) ^ e := by
  cases e with
  | ofNat n => simp [powerOfTwo]
  | negSucc n => simp [powerOfTwo, zpow_negSucc]

/-- **The logarithm** that numerator and denominator give up to one is that of the number. -/
theorem binaryLog_eq {q : ℚ} (hq : 0 < q) : binaryLog q = Int.log 2 q := by
  have hnum : q.num.natAbs ≠ 0 := Int.natAbs_ne_zero.mpr (Rat.num_pos.mpr hq).ne'
  have hden : (0 : ℚ) < q.den := by exact_mod_cast q.den_pos
  have hvalue : (q.num.natAbs : ℚ) / q.den = q := by
    rw [← Int.cast_natCast, Int.natAbs_of_nonneg (Rat.num_pos.mpr hq).le, Rat.num_div_den]
  -- a length places a whole number between two powers
  have hlength {n : ℕ} (hn : n ≠ 0) :
      (2 : ℚ) ^ (n.log2 : ℤ) ≤ n ∧ (n : ℚ) < 2 ^ ((n.log2 : ℤ) + 1) := by
    refine ⟨?_, ?_⟩
    · rw [zpow_natCast]
      exact_mod_cast Nat.log2_self_le hn
    · rw [← Nat.cast_succ, zpow_natCast]
      exact_mod_cast Nat.lt_log2_self
  obtain ⟨hnumLow, hnumHigh⟩ := hlength hnum
  obtain ⟨hdenLow, hdenHigh⟩ := hlength q.den_pos.ne'
  -- the lengths give the logarithm up to one, and one comparison decides which it is
  set guess : ℤ := (q.num.natAbs.log2 : ℤ) - (q.den.log2 : ℤ) with hguess
  have hlow : guess - 1 ≤ Int.log 2 q := by
    refine (Int.zpow_le_iff_le_log (by norm_num) hq).mp ?_
    rw [← hvalue, le_div_iff₀ hden]
    calc (2 : ℚ) ^ (guess - 1) * q.den ≤ 2 ^ (guess - 1) * 2 ^ ((q.den.log2 : ℤ) + 1) := by gcongr
      _ = 2 ^ (q.num.natAbs.log2 : ℤ) := by
        rw [← zpow_add₀ two_ne_zero]
        congr 1
        omega
      _ ≤ q.num.natAbs := hnumLow
  have hhigh : Int.log 2 q < guess + 1 := by
    refine (Int.lt_zpow_iff_log_lt (by norm_num) hq).mp ?_
    rw [← hvalue, div_lt_iff₀ hden]
    calc (q.num.natAbs : ℚ) < 2 ^ ((q.num.natAbs.log2 : ℤ) + 1) := hnumHigh
      _ = 2 ^ (guess + 1) * 2 ^ (q.den.log2 : ℤ) := by
        rw [← zpow_add₀ two_ne_zero]
        congr 1
        omega
      _ ≤ 2 ^ (guess + 1) * q.den := by gcongr
  have hpower : powerOfTwo guess ≤ q ↔ guess ≤ Int.log 2 q := by
    rw [powerOfTwo_eq]
    exact_mod_cast Int.zpow_le_iff_le_log (b := 2) (by norm_num) hq
  have hlog : binaryLog q = if powerOfTwo guess ≤ q then guess else guess - 1 := rfl
  rw [hlog]
  split_ifs with h
  · have := hpower.mp h
    omega
  · have := mt hpower.mpr h
    omega

/-! ### The numbers of the format -/

namespace Binary64

/-- A number that the format has, and that is not negative. -/
def Has (r : ℚ) : Prop :=
  ∃ (m : ℕ) (e : ℤ), m < 2 ^ 53 ∧ minExponent ≤ e ∧ e ≤ maxExponent ∧ (m : ℚ) * 2 ^ e = r

theorem Has.nonneg {r : ℚ} (h : Has r) : 0 ≤ r := by
  obtain ⟨m, e, -, -, -, rfl⟩ := h
  positivity

/-- It has every whole number of 53 binary digits. -/
theorem has_natCast {n : ℕ} (h : n < 2 ^ 53) : Has n :=
  ⟨n, 0, h, by decide, by decide, by rw [zpow_zero, mul_one]⟩

theorem has_zero : Has 0 := by
  exact_mod_cast has_natCast (n := 0) (by norm_num)

theorem has_one : Has 1 := by
  exact_mod_cast has_natCast (n := 1) (by norm_num)

/-- A significand has 53 digits. -/
theorem significand_mul_lt {m : ℕ} (h : m < 2 ^ 53) (e : ℤ) :
    (m : ℚ) * 2 ^ e < 2 ^ (e + 53) := by
  have hm : (m : ℚ) < 2 ^ (53 : ℤ) := by exact_mod_cast h
  rw [zpow_add₀ two_ne_zero, mul_comm]
  gcongr

/-- **What a positive number is rounded to**, as far as it is in range: the nearest multiple of its
unit. -/
def rounded (q : ℚ) : ℚ :=
  nearest (q * 2 ^ (-roundingExponent q)) * 2 ^ roundingExponent q

section Unit

variable {q r : ℚ}

theorem minExponent_le_roundingExponent (q : ℚ) : minExponent ≤ roundingExponent q :=
  le_max_left _ _

/-- In units, a number has at most 53 digits, -/
theorem lt_unit (hq : 0 < q) : q < 2 ^ (roundingExponent q + 53) := by
  have hlog : binaryLog q - 52 ≤ roundingExponent q := le_max_right _ _
  calc q < ((2 : ℕ) : ℚ) ^ (Int.log 2 q + 1) := Int.lt_zpow_succ_log_self (by norm_num) q
    _ ≤ 2 ^ (roundingExponent q + 53) := by
      rw [← binaryLog_eq hq]
      exact zpow_le_zpow_right₀ (by norm_num) (by omega)

/-- and no fewer, unless the unit is the least. -/
theorem unit_le (hq : 0 < q) (h : minExponent < roundingExponent q) :
    2 ^ (roundingExponent q + 52) ≤ q := by
  have hlog : roundingExponent q = binaryLog q - 52 := by
    unfold roundingExponent at h ⊢
    omega
  calc (2 : ℚ) ^ (roundingExponent q + 52) = ((2 : ℕ) : ℚ) ^ Int.log 2 q := by
        rw [hlog, sub_add_cancel, binaryLog_eq hq, Nat.cast_ofNat]
    _ ≤ q := Int.zpow_log_le_self (by norm_num) hq

theorem units_le_iff {n : ℤ} :
    q * 2 ^ (-roundingExponent q) ≤ n ↔ q ≤ n * 2 ^ roundingExponent q := by
  rw [zpow_neg, ← div_eq_mul_inv, div_le_iff₀ (by positivity)]

theorem le_units_iff {n : ℤ} :
    n ≤ q * 2 ^ (-roundingExponent q) ↔ n * 2 ^ roundingExponent q ≤ q := by
  rw [zpow_neg, ← div_eq_mul_inv, le_div_iff₀ (by positivity)]

/-- **A number of the format is a multiple of the unit**, if it is as large as 52 digits of
them. -/
theorem Has.multiple (hr : Has r)
    (h : minExponent < roundingExponent q → 2 ^ (roundingExponent q + 52) ≤ r) :
    ∃ n : ℤ, r = n * 2 ^ roundingExponent q := by
  obtain ⟨m, e, hm, hmin, -, rfl⟩ := hr
  by_cases he : roundingExponent q ≤ e
  · refine ⟨m * 2 ^ (e - roundingExponent q).toNat, ?_⟩
    push_cast
    rw [← zpow_natCast, Int.toNat_of_nonneg (by omega), mul_assoc, ← zpow_add₀ two_ne_zero,
      sub_add_cancel]
  · -- it would have too few digits
    have hlow := h (by omega)
    have hhigh : (2 : ℚ) ^ (e + 53) ≤ 2 ^ (roundingExponent q + 52) :=
      zpow_le_zpow_right₀ (by norm_num) (by omega)
    exact absurd (significand_mul_lt hm e) (not_lt.mpr (hhigh.trans hlow))

/-- **Rounding does not pass a number of the format** on the way up, -/
theorem rounded_le (hq : 0 < q) (hr : Has r) (h : q ≤ r) : rounded q ≤ r := by
  obtain ⟨n, rfl⟩ := hr.multiple (q := q) fun hmin => (unit_le hq hmin).trans h
  have hnearest : nearest (q * 2 ^ (-roundingExponent q)) ≤ n := nearest_le (units_le_iff.mpr h)
  have hcast : (nearest (q * 2 ^ (-roundingExponent q)) : ℚ) ≤ n := by exact_mod_cast hnearest
  unfold rounded
  gcongr

/-- A number of many units is rounded to as many. -/
theorem unit_le_rounded (hq : 0 < q) (h : minExponent < roundingExponent q) :
    2 ^ (roundingExponent q + 52) ≤ rounded q := by
  have hunits : ((2 ^ 52 : ℤ) : ℚ) * 2 ^ roundingExponent q ≤ q := by
    calc ((2 ^ 52 : ℤ) : ℚ) * 2 ^ roundingExponent q = 2 ^ (roundingExponent q + 52) := by
          rw [zpow_add₀ two_ne_zero, mul_comm]
          norm_num
      _ ≤ q := unit_le hq h
  have hnearest : (2 ^ 52 : ℤ) ≤ nearest (q * 2 ^ (-roundingExponent q)) :=
    le_nearest (le_units_iff.mpr hunits)
  have hcast : (2 : ℚ) ^ (52 : ℤ) ≤ nearest (q * 2 ^ (-roundingExponent q)) := by
    exact_mod_cast hnearest
  rw [rounded, zpow_add₀ two_ne_zero, mul_comm]
  gcongr

/-- nor on the way down. -/
theorem le_rounded (hq : 0 < q) (hr : Has r) (h : r ≤ q) : r ≤ rounded q := by
  by_cases hlarge : minExponent < roundingExponent q → 2 ^ (roundingExponent q + 52) ≤ r
  · obtain ⟨n, rfl⟩ := hr.multiple hlarge
    have hnearest : n ≤ nearest (q * 2 ^ (-roundingExponent q)) := le_nearest (le_units_iff.mpr h)
    have hcast : (n : ℚ) ≤ nearest (q * 2 ^ (-roundingExponent q)) := by exact_mod_cast hnearest
    unfold rounded
    gcongr
  · push Not at hlarge
    exact hlarge.2.le.trans (unit_le_rounded hq hlarge.1)

/-- The significand may have carried into one more digit. -/
theorem nearest_le_carry (hq : 0 < q) : nearest (q * 2 ^ (-roundingExponent q)) ≤ 2 ^ 53 := by
  refine nearest_le (units_le_iff.mpr ((lt_unit hq).le.trans (le_of_eq ?_)))
  rw [zpow_add₀ two_ne_zero, mul_comm]
  norm_num

end Unit

/-- **Rounding a positive number.** It is out of range, or a number of the format of that value. -/
theorem round_cases {q : ℚ} (hq : 0 < q) (negativeZero : Bool) :
    (round q negativeZero = .infinite false ∧ 2 ^ (1024 : ℤ) ≤ rounded q) ∨
      ∃ (m : ℕ) (e : ℤ), round q negativeZero = .finite false m e ∧ m < 2 ^ 53 ∧
        minExponent ≤ e ∧ e ≤ maxExponent ∧ (m : ℚ) * 2 ^ e = rounded q := by
  have hle := nearest_le_carry hq
  have hnonneg : 0 ≤ nearest (q * 2 ^ (-roundingExponent q)) := le_nearest (by positivity)
  have hmin := minExponent_le_roundingExponent q
  have hvalue : ((nearest (q * 2 ^ (-roundingExponent q))).toNat : ℚ) * 2 ^ roundingExponent q
      = rounded q := by
    rw [rounded, ← Int.cast_natCast, Int.toNat_of_nonneg hnonneg]
  -- rounding up may carry into a 54th digit, and only then the exponent moves
  by_cases hcarry : (nearest (q * 2 ^ (-roundingExponent q))).toNat = 2 ^ 53
  · have hround : round q negativeZero =
        if maxExponent < roundingExponent q + 1 then .infinite false
        else .finite false (2 ^ 52) (roundingExponent q + 1) := by
      unfold round
      rw [if_neg hq.ne', decide_eq_false (not_lt.mpr hq.le)]
      simp only [powerOfTwo_eq, Bool.false_eq_true, if_false, if_pos hcarry]
    rw [hcarry] at hvalue
    rw [hround]
    split_ifs with hover
    · have hpower : (2 : ℚ) ^ (roundingExponent q + 53) = rounded q := by
        rw [← hvalue, zpow_add₀ two_ne_zero, mul_comm]
        norm_num
      refine .inl ⟨rfl, ?_⟩
      rw [← hpower]
      exact zpow_le_zpow_right₀ (by norm_num) (by unfold maxExponent at hover; omega)
    · -- the same value with one digit less
      have hcarried : ((2 ^ 52 : ℕ) : ℚ) * 2 ^ (roundingExponent q + 1) = rounded q := by
        rw [← hvalue, zpow_add₀ two_ne_zero]
        push_cast
        ring
      exact .inr ⟨_, _, rfl, by norm_num, by omega, by omega, hcarried⟩
  · have hround : round q negativeZero =
        if maxExponent < roundingExponent q then .infinite false
        else .finite false (nearest (q * 2 ^ (-roundingExponent q))).toNat
          (roundingExponent q) := by
      unfold round
      rw [if_neg hq.ne', decide_eq_false (not_lt.mpr hq.le)]
      simp only [powerOfTwo_eq, Bool.false_eq_true, if_false, if_neg hcarry]
    rw [hround]
    split_ifs with hover
    · refine .inl ⟨rfl, le_trans ?_ (unit_le_rounded hq (lt_trans (by decide) hover))⟩
      exact zpow_le_zpow_right₀ (by norm_num) (by unfold maxExponent at hover; omega)
    · exact .inr ⟨_, _, rfl, by omega, hmin, by omega, hvalue⟩

/-! ### Values -/

theorem toRat?_finite (m : ℕ) (e : ℤ) :
    (finite false m e).toRat? = some ((m : ℚ) * 2 ^ e) := by
  rw [toRat?, powerOfTwo_eq]
  simp

theorem toRat?_zero (negative : Bool) : (zero negative).toRat? = some 0 := by
  rw [zero, toRat?, Nat.cast_zero, mul_zero, zero_mul]

/-- **Rounding stays between numbers of the format**, and in range. -/
theorem round_between {low q high : ℚ} (hlow : Has low) (hhigh : Has high) (hlowq : low ≤ q)
    (hqhigh : q ≤ high) (negativeZero : Bool) :
    ∃ p, (round q negativeZero).toRat? = some p ∧ low ≤ p ∧ p ≤ high := by
  rcases (hlow.nonneg.trans hlowq).eq_or_lt with rfl | hq
  · refine ⟨0, ?_, hlowq, hqhigh⟩
    rw [round, if_pos rfl, toRat?_zero]
  · have hup := rounded_le hq hhigh hqhigh
    rcases round_cases hq negativeZero with ⟨-, hover⟩ | ⟨m, e, hround, -, -, -, hvalue⟩
    · obtain ⟨m, e, hm, -, hmax, rfl⟩ := hhigh
      have hsmall : (2 : ℚ) ^ (e + 53) ≤ 2 ^ (1024 : ℤ) :=
        zpow_le_zpow_right₀ (by norm_num) (by unfold maxExponent at hmax; omega)
      exact absurd (hover.trans hup) (not_le.mpr ((significand_mul_lt hm e).trans_le hsmall))
    · refine ⟨rounded q, ?_, le_rounded hq hlow hlowq, hup⟩
      rw [hround, toRat?_finite, hvalue]

/-- **A number of the format is not changed** by rounding. -/
theorem round_exact {q : ℚ} (hq : Has q) (negativeZero : Bool) :
    (round q negativeZero).toRat? = some q := by
  obtain ⟨p, hp, hle, hge⟩ := round_between hq hq le_rfl le_rfl negativeZero
  rw [hp, le_antisymm hge hle]

theorem ofNat_exact {n : ℕ} (h : n < 2 ^ 53) : (ofNat n).toRat? = some (n : ℚ) :=
  round_exact (has_natCast h) false

theorem toRat?_one : (ofNat 1).toRat? = some 1 := by
  rw [ofNat_exact (by norm_num), Nat.cast_one]

end Binary64

end HttpPipeline
