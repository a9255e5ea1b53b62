import HttpPipeline.Proofs.Text.Letters
import Mathlib.Data.List.Induction

/-!
# Hexadecimal digits

There are 22 hexadecimal digits, six of them twice: in lower case and as capitals
(`Text.isHexDigit_iff`). A digit of either case has a value, and that value is written as the digit
in lower case (`Text.digitChar_of_isHexDigit`).

What holds of one digit is then carried along a text from its last digit, since that is where both
sides take one off: reading multiplies by 16 and adds the last digit
(`Text.hexNumber_append_singleton`), writing divides by 16 and puts the remainder last. So writing
a number that fits and reading it again gives the number (`Text.hexNumber_hex`), and reading digits
and writing them again gives the digits in lower case (`Text.hex_hexNumber`).
-/

namespace HttpPipeline.Text

variable {c : Char}

/-- The hexadecimal digits of either case. -/
def hexAlphabet : List Char := "0123456789abcdefABCDEF".toList

/-! ### One digit -/

/-- A character of a range is so many places after the first one. -/
theorem exists_eq_ofNat {first last : Char} (hfirst : first ≤ c) (hlast : c ≤ last) :
    ∃ n ≤ last.toNat - first.toNat, c = Char.ofNat (first.toNat + n) := by
  have hlow : first.toNat ≤ c.toNat := toNat_le hfirst
  have hhigh : c.toNat ≤ last.toNat := toNat_le hlast
  refine ⟨c.toNat - first.toNat, by omega, ?_⟩
  rw [Nat.add_sub_cancel' hlow, Char.ofNat_toNat]

/-- **The hexadecimal digits** are the 22 characters of the alphabet. -/
theorem isHexDigit_iff : isHexDigit c = true ↔ c ∈ hexAlphabet := by
  constructor
  · intro h
    simp only [isHexDigit, isDigit, Bool.or_eq_true, Bool.and_eq_true, decide_eq_true_eq] at h
    -- one range for the decimal digits, one for the letters of each case
    have hdigits : ∀ n ≤ 9, Char.ofNat (48 + n) ∈ hexAlphabet := by decide
    have hsmall : ∀ n ≤ 5, Char.ofNat (97 + n) ∈ hexAlphabet := by decide
    have hcapitals : ∀ n ≤ 5, Char.ofNat (65 + n) ∈ hexAlphabet := by decide
    rcases h with (⟨h0, h9⟩ | ⟨ha, hf⟩) | ⟨hA, hF⟩
    · obtain ⟨n, hn, rfl⟩ := exists_eq_ofNat h0 h9
      exact hdigits n hn
    · obtain ⟨n, hn, rfl⟩ := exists_eq_ofNat ha hf
      exact hsmall n hn
    · obtain ⟨n, hn, rfl⟩ := exists_eq_ofNat hA hF
      exact hcapitals n hn
  · intro h
    have hall : hexAlphabet.all isHexDigit = true := by decide
    exact List.all_eq_true.mp hall c h

/-- What holds of all digits is checked for one after the other. The check is on the list and not on
`∀ d`, since that would be decided for all characters there are. -/
theorem forall_isHexDigit {p : Char → Prop} [DecidablePred p]
    (hall : hexAlphabet.all (fun d => decide (p d)) = true) : ∀ d, isHexDigit d = true → p d :=
  fun d hd => of_decide_eq_true (List.all_eq_true.mp hall d (isHexDigit_iff.mp hd))

/-- **A digit of either case** has a value below 16, which is written as the digit in lower
case. -/
theorem digitChar_of_isHexDigit (h : isHexDigit c = true) :
    ∃ n < 16, hexValue? c = some n ∧ Nat.digitChar n = lowerChar c := by
  have hall : ∀ d, isHexDigit d = true →
      ∃ n < 16, hexValue? d = some n ∧ Nat.digitChar n = lowerChar d :=
    forall_isHexDigit (by decide)
  exact hall c h

/-- A value below 16 is written as a digit, and the digit is read as the value. -/
theorem hexValue?_digitChar {n : Nat} (h : n < 16) :
    isHexDigit n.digitChar = true ∧ hexValue? n.digitChar = some n := by
  have hall : ∀ n < 16,
      isHexDigit (Nat.digitChar n) = true ∧ hexValue? (Nat.digitChar n) = some n := by decide
  exact hall n h

/-- What has a value is a digit. -/
theorem isHexDigit_of_hexValue? {n : Nat} (h : hexValue? c = some n) : isHexDigit c = true := by
  unfold hexValue? at h
  unfold isHexDigit
  split_ifs at h with hdigit hsmall hcapital
  · rw [hdigit, Bool.true_or, Bool.true_or]
  · rw [hsmall, Bool.or_true, Bool.true_or]
  · rw [hcapital, Bool.or_true]

/-- The value of a digit is less than 16. -/
theorem hexValue?_lt {n : Nat} (h : hexValue? c = some n) : n < 16 := by
  obtain ⟨m, hm, hvalue, -⟩ := digitChar_of_isHexDigit (isHexDigit_of_hexValue? h)
  rw [h] at hvalue
  rwa [Option.some.inj hvalue]

/-! ### Numbers -/

/-- One more digit at the end. -/
theorem hexNumber_append_singleton (digits : List Char) (c : Char) :
    hexNumber (digits ++ [c]) = 16 * hexNumber digits + (hexValue? c).getD 0 := by
  rw [hexNumber, List.foldl_append]
  rfl

/-- A number of so many digits. -/
theorem hexNumber_lt (digits : List Char) : hexNumber digits < 16 ^ digits.length := by
  induction digits using List.reverseRec with
  | nil => decide
  | append_singleton digits c ih =>
    have hc : (hexValue? c).getD 0 < 16 := by
      cases hvalue : hexValue? c with
      | none => decide
      | some n => exact hexValue?_lt hvalue
    rw [hexNumber_append_singleton, List.length_append, List.length_singleton, Nat.pow_succ]
    omega

/-- **Written and read**: the digits of a number that fits write that number. -/
theorem hexNumber_hex {width n : Nat} (h : n < 16 ^ width) : hexNumber (hex width n) = n := by
  induction width generalizing n with
  | zero =>
    obtain rfl : n = 0 := Nat.lt_one_iff.mp h
    rfl
  | succ width ih =>
    have hfits : n / 16 < 16 ^ width := by
      rw [Nat.pow_succ] at h
      omega
    obtain ⟨-, hlast⟩ := hexValue?_digitChar (Nat.mod_lt n (by decide : 0 < 16))
    calc hexNumber (hex (width + 1) n)
        = 16 * hexNumber (hex width (n / 16)) + (hexValue? (n % 16).digitChar).getD 0 :=
          hexNumber_append_singleton _ _
      _ = 16 * (n / 16) + n % 16 := by rw [ih hfits, hlast, Option.getD_some]
      _ = n := Nat.div_add_mod n 16

/-- **Read and written**: digits of either case are written again in lower case, leading zeros
included. -/
theorem hex_hexNumber {digits : List Char} (h : ∀ c ∈ digits, isHexDigit c = true) :
    hex digits.length (hexNumber digits) = lower digits := by
  induction digits using List.reverseRec with
  | nil => rfl
  | append_singleton digits c ih =>
    obtain ⟨hdigits, hc⟩ := List.forall_mem_append.mp h
    obtain ⟨n, hn, hvalue, hchar⟩ := digitChar_of_isHexDigit (hc c (List.mem_singleton.mpr rfl))
    -- the last digit is the remainder, and the digits before it are the quotient
    have hnumber : hexNumber (digits ++ [c]) = 16 * hexNumber digits + n := by
      rw [hexNumber_append_singleton, hvalue, Option.getD_some]
    have hquotient : hexNumber (digits ++ [c]) / 16 = hexNumber digits := by omega
    have hremainder : hexNumber (digits ++ [c]) % 16 = n := by omega
    rw [List.length_append, List.length_singleton, hex, hquotient, hremainder, ih hdigits, hchar,
      lower, lower, List.map_append, List.map_singleton]

/-! ### In decimal -/

/-- A number in decimal is written in decimal digits. -/
theorem isDigit_of_mem_decimal {n : ℕ} (hc : c ∈ (decimal n).toList) : isDigit c = true := by
  rw [decimal, Nat.toString_eq_ofList_toDigits, String.toList_ofList] at hc
  exact Nat.isDigit_of_mem_toDigits (by decide) (by decide) hc

end HttpPipeline.Text
