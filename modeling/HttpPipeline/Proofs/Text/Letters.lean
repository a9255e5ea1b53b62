import HttpPipeline.Text.Ascii
import Mathlib.Tactic.SplitIfs

/-!
# Letters and digits of ASCII

A change of case leaves all characters alone but the 26 capitals. So what does not tell the two
cases of these apart does not notice the change (`Text.lowerChar_class`), and a text in lower case
stays as it is (`Text.lower_lower`).
-/

namespace HttpPipeline.Text

variable {c : Char}

theorem toNat_le {d : Char} (h : c ≤ d) : c.toNat ≤ d.toNat := UInt32.le_iff_toNat_le.mp h

/-- A class of characters holds no character that is outside it. -/
theorem ne_of_class {p : Char → Bool} {d : Char} (hc : p c = true) (hd : p d = false) : c ≠ d := by
  rintro rfl
  rw [hc] at hd
  exact Bool.false_ne_true hd.symm

theorem contains_of_class {p : Char → Bool} {others : List Char}
    (hothers : others.any p = false) (hc : p c = true) : others.contains c = false := by
  refine Bool.eq_false_iff.mpr fun hmem => ?_
  exact List.any_eq_false.mp hothers c (List.contains_iff_mem.mp hmem) hc

/-- A number in hexadecimal is written in digits. -/
theorem mem_hex {width n : Nat} (h : c ∈ hex width n) : ∃ digit < 16, c = Nat.digitChar digit := by
  induction width generalizing n with
  | zero => exact absurd h List.not_mem_nil
  | succ width ih =>
    rcases List.mem_append.mp h with h | h
    · exact ih h
    · exact ⟨n % 16, Nat.mod_lt n (by decide), List.mem_singleton.mp h⟩

/-- **What does not tell the two cases of a letter apart.** -/
theorem lowerChar_class {α : Type} {f : Char → α}
    (hf : ∀ n < 26, f (Char.ofNat (65 + n + 32)) = f (Char.ofNat (65 + n))) (c : Char) :
    f (lowerChar c) = f c := by
  by_cases hupper : 'A' ≤ c ∧ c ≤ 'Z'
  · have hhigh : c.toNat ≤ 90 := toNat_le hupper.2
    obtain ⟨n, hn⟩ := Nat.exists_eq_add_of_le (show 65 ≤ c.toNat from toNat_le hupper.1)
    rw [lowerChar, if_pos hupper, hn, hf n (by omega), ← hn, Char.ofNat_toNat]
  · rw [lowerChar, if_neg hupper]

theorem lowerChar_lowerChar (c : Char) : lowerChar (lowerChar c) = lowerChar c :=
  lowerChar_class (by decide) c

/-- **A text in lower case** stays as it is. -/
theorem lower_lower (cs : List Char) : lower (lower cs) = lower cs := by
  rw [lower, lower, List.map_map]
  exact List.map_congr_left fun c _ => lowerChar_lowerChar c

end HttpPipeline.Text
