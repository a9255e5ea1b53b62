import HttpPipeline.Proofs.Number.Amounts
import Mathlib.Data.List.TakeWhile
import Mathlib.Data.Nat.Digits.Defs
import Mathlib.Tactic.IntervalCases

/-!
# Decimal numerals

A numeral of plain digits, with or without a point, is read as the number that its digits write
over a power of ten (`Binary64.parse?_numeral`). That number is zero if every digit is, and only
then: a numeral that is not too long writes no number that could vanish in the format
(`Binary64.isZero_ofDecimal`).
-/

namespace HttpPipeline

theorem powerOfTen_eq (e : ℤ) : powerOfTen e = (10 : ℚ) ^ e := by
  cases e with
  | ofNat n => simp [powerOfTen]
  | negSucc n => simp [powerOfTen, zpow_negSucc]

namespace Binary64

/-! ### What digits write -/

section Digits

variable {d : ℕ} {digits : List ℕ}

theorem digitsValue_eq (digits : List ℕ) : digitsValue digits = Nat.ofDigits 10 digits.reverse := by
  rw [Nat.ofDigits_eq_foldr, List.foldr_reverse, digitsValue]
  congr 1
  funext n d
  exact Nat.add_comm _ _

theorem digitsValue_lt (h : ∀ d ∈ digits, d < 10) : digitsValue digits < 10 ^ digits.length := by
  rw [digitsValue_eq, ← List.length_reverse]
  exact Nat.ofDigits_lt_base_pow_length (by norm_num) fun d hd => h d (List.mem_reverse.mp hd)

/-- Digits of which the first is not zero write no zero. -/
theorem digitsValue_pos (hd : d ≠ 0) (digits : List ℕ) : 0 < digitsValue (d :: digits) := by
  rw [digitsValue_eq, List.reverse_cons, Nat.ofDigits_append, Nat.ofDigits_singleton]
  exact Nat.add_pos_right _ (Nat.mul_pos (by positivity) (Nat.pos_of_ne_zero hd))

/-- A number whose digits are near the point is far from the ends of the format. -/
theorem digitsValue_between (hd : d ≠ 0) (hdigits : ∀ d' ∈ d :: digits, d' < 10) {exponent : ℤ}
    (hlow : -60 ≤ exponent) (hhigh : (d :: digits).length + exponent ≤ 60) :
    2 ^ (-200 : ℤ) ≤ (digitsValue (d :: digits) : ℚ) * powerOfTen exponent ∧
      (digitsValue (d :: digits) : ℚ) * powerOfTen exponent ≤ 2 ^ (200 : ℤ) := by
  have hone : (1 : ℚ) ≤ digitsValue (d :: digits) := by exact_mod_cast digitsValue_pos hd digits
  have hvalue : (digitsValue (d :: digits) : ℚ) ≤ 10 ^ ((d :: digits).length : ℤ) := by
    rw [zpow_natCast]
    exact_mod_cast (digitsValue_lt hdigits).le
  have hpower : (0 : ℚ) < 10 ^ exponent := by positivity
  rw [powerOfTen_eq]
  refine ⟨?_, ?_⟩
  · calc (2 : ℚ) ^ (-200 : ℤ) ≤ 10 ^ (-60 : ℤ) := by norm_num
      _ ≤ 10 ^ exponent := zpow_le_zpow_right₀ (by norm_num) hlow
      _ ≤ digitsValue (d :: digits) * 10 ^ exponent := le_mul_of_one_le_left hpower.le hone
  · calc (digitsValue (d :: digits) : ℚ) * 10 ^ exponent
        ≤ 10 ^ ((d :: digits).length : ℤ) * 10 ^ exponent := by gcongr
      _ = 10 ^ ((d :: digits).length + exponent) := (zpow_add₀ (by norm_num) _ _).symm
      _ ≤ 10 ^ (60 : ℤ) := zpow_le_zpow_right₀ (by norm_num) hhigh
      _ ≤ 2 ^ (200 : ℤ) := by norm_num

end Digits

/-! ### Zeros -/

/-- The format has the powers of two in its range. -/
theorem has_powerOfTwo {e : ℤ} (hmin : minExponent ≤ e) (hmax : e ≤ maxExponent) :
    Has (2 ^ e) :=
  ⟨1, e, by norm_num, hmin, hmax, by rw [Nat.cast_one, one_mul]⟩

/-- What has a positive value is no zero. -/
theorem isZero_of_value_pos {x : Binary64} {p : ℚ} (hx : x.toRat? = some p) (hp : 0 < p) :
    x.isZero = false := by
  obtain ⟨negative, m, e, rfl⟩ := exists_of_value hx
  cases m with
  | zero =>
    rw [toRat?, Nat.cast_zero, mul_zero, zero_mul] at hx
    exact absurd (Option.some.inj hx) hp.ne
  | succ m => rfl

/-- **The zeros among numerals** of at most sixty digits on either side of the point. -/
theorem isZero_ofDecimal {digits : List ℕ} (hdigits : ∀ d ∈ digits, d < 10) (exponent : ℤ)
    (hlow : -60 ≤ exponent) (hhigh : digits.length + exponent ≤ 60) :
    (ofDecimal false digits exponent).isZero = digits.all (· == 0) := by
  cases hdrop : digits.dropWhile (· == 0) with
  | nil =>
    have hzero : digits.all (· == 0) = true :=
      List.all_eq_true.mpr (List.dropWhile_eq_nil_iff.mp hdrop)
    simp only [ofDecimal, hdrop, List.isEmpty_nil, if_true, hzero]
    rfl
  | cons d rest =>
    have hsublist : List.Sublist (d :: rest) digits := hdrop ▸ List.dropWhile_sublist _
    have hlength := hsublist.length_le
    have hd : d ≠ 0 := by
      have hhead := List.head_dropWhile_not (· == 0) (l := digits) (by rw [hdrop]; simp)
      simpa [hdrop] using hhead
    have hnonzero : digits.all (· == 0) = false :=
      List.all_eq_false.mpr ⟨d, hsublist.subset List.mem_cons_self, by simpa using hd⟩
    -- a value that is not zero lies between two powers that are far from both ends
    obtain ⟨hle, hge⟩ := digitsValue_between hd
      (fun d' hd' => hdigits d' (hsublist.subset hd')) hlow (by omega)
    obtain ⟨p, hp, hlowp, -⟩ := round_between (has_powerOfTwo (by decide) (by decide))
      (has_powerOfTwo (by decide) (by decide)) hle hge false
    have hround : ofDecimal false digits exponent
        = round (digitsValue (d :: rest) * powerOfTen exponent) false := by
      have hfar : ¬400 < ((d :: rest).length : ℤ) + exponent := by omega
      have hnear : ¬((d :: rest).length : ℤ) + exponent < -400 := by omega
      simp only [ofDecimal, hdrop, List.isEmpty_cons, Bool.false_eq_true, if_false, if_neg hfar,
        if_neg hnear]
    rw [hround, hnonzero]
    exact isZero_of_value_pos hp (lt_of_lt_of_le (by positivity) hlowp)

/-! ### Reading -/

/-- A numeral of plain digits: those before the point, and the point with those after it, if there
is one. -/
def numeral (whole : List ℕ) (fraction : Option (List ℕ)) : List Char :=
  whole.map Nat.digitChar ++ fraction.elim [] fun digits => '.' :: digits.map Nat.digitChar

/-- A digit is read as itself. -/
theorem digitChar_spec {d : ℕ} (h : d < 10) :
    Text.isDigit (Nat.digitChar d) = true ∧ (Nat.digitChar d).toNat - '0'.toNat = d := by
  interval_cases d <;> decide

/-- The digits in front of what does not start with one. -/
theorem spanDigits_append {digits : List ℕ} (h : ∀ d ∈ digits, d < 10) (rest : List Char)
    (hrest : rest.head?.any Text.isDigit = false) :
    spanDigits (digits.map Nat.digitChar ++ rest) = (digits, rest) := by
  have hall : ∀ c ∈ digits.map Nat.digitChar, Text.isDigit c = true := by
    simp only [List.mem_map, forall_exists_index, and_imp, forall_apply_eq_imp_iff₂]
    exact fun d hd => (digitChar_spec (h d hd)).1
  have hstops : rest.takeWhile Text.isDigit = [] ∧ rest.dropWhile Text.isDigit = rest := by
    cases rest with
    | nil => exact ⟨rfl, rfl⟩
    | cons c rest =>
      have hc : Text.isDigit c = false := by simpa using hrest
      simp [hc]
  have hvalues : (digits.map Nat.digitChar).map (fun c => c.toNat - '0'.toNat) = digits := by
    rw [List.map_map]
    exact (List.map_congr_left fun d hd => (digitChar_spec (h d hd)).2).trans (List.map_id digits)
  rw [spanDigits, List.takeWhile_append_of_pos hall, List.dropWhile_append_of_pos hall, hstops.1,
    hstops.2, List.append_nil, hvalues]

/-- What starts with a digit has no sign and is no word. -/
theorem parse?_digit {d : ℕ} (hd : d < 10) (cs : List Char) :
    parse? (Nat.digitChar d :: cs) =
      let (whole, rest) := spanDigits (Nat.digitChar d :: cs)
      let (fraction, rest) := match rest with
        | '.' :: rest => spanDigits rest
        | rest => ([], rest)
      if whole.isEmpty && fraction.isEmpty then none
      else (exponent? rest).map fun e =>
        ofDecimal false (whole ++ fraction) (e - fraction.length) := by
  interval_cases d <;> rfl

/-- **Reading a numeral** of plain digits. -/
theorem parse?_numeral {whole : List ℕ} (hwhole : ∀ d ∈ whole, d < 10) (hsome : whole ≠ [])
    {fraction : Option (List ℕ)} (hfraction : ∀ digits ∈ fraction, ∀ d ∈ digits, d < 10) :
    parse? (numeral whole fraction)
      = some (ofDecimal false (whole ++ fraction.getD []) (-(fraction.getD []).length)) := by
  obtain ⟨d, others, rfl⟩ := List.exists_cons_of_ne_nil hsome
  cases fraction with
  | none =>
    have hspan := spanDigits_append hwhole [] rfl
    rw [numeral, Option.elim_none]
    rw [List.map_cons, List.cons_append] at hspan ⊢
    rw [parse?_digit (hwhole d List.mem_cons_self), hspan]
    simp [exponent?]
  | some digits =>
    have hspan := spanDigits_append hwhole ('.' :: digits.map Nat.digitChar) rfl
    have hfurther := spanDigits_append (hfraction digits rfl) [] rfl
    rw [List.append_nil] at hfurther
    rw [numeral, Option.elim_some]
    rw [List.map_cons, List.cons_append] at hspan ⊢
    rw [parse?_digit (hwhole d List.mem_cons_self), hspan]
    simp [hfurther, exponent?]

end Binary64

end HttpPipeline
