import HttpPipeline.Snowflake.Id

/-!
# The order of identifiers

Identifiers are compared as numbers, and their texts as sequences of characters. Both
orders are the same (`SnowflakeId.text_lt_text_iff`), because a text has all 16 digits,
leading zeros included, and digits of greater value are greater characters.

Between identifiers of one machine the order is that of the timestamps, and within a
millisecond that of the sequence numbers (`SnowflakeId.ofParts_lt_ofParts`).
-/

namespace HttpPipeline

namespace Text

@[simp] theorem length_hex (width n : Nat) : (hex width n).length = width := by
  induction width generalizing n with
  | zero => rfl
  | succ width ih => rw [hex, List.length_append, ih, List.length_singleton]

/-- Digits are ordered as their values. -/
theorem digitChar_lt_digitChar {m n : Nat} (hmn : m < n) (hn : n < 16) :
    Nat.digitChar m < Nat.digitChar n := by
  have key : ∀ n < 16, ∀ m < n, Nat.digitChar m < Nat.digitChar n := by decide
  exact key n hn m hmn

/-- Between lists of one length, a difference is not undone by what follows. -/
theorem append_lt_append {a b : List Char} (hlen : a.length = b.length) (h : a < b)
    (c d : List Char) : a ++ c < b ++ d := by
  induction a generalizing b with
  | nil =>
    obtain rfl : b = [] := List.eq_nil_of_length_eq_zero hlen.symm
    exact absurd h (List.lt_irrefl _)
  | cons x a ih =>
    cases b with
    | nil => exact absurd h (List.not_lt_nil _)
    | cons y b =>
      rw [List.cons_append, List.cons_append, List.cons_lt_cons_iff]
      rcases List.cons_lt_cons_iff.mp h with hxy | ⟨rfl, hab⟩
      · exact Or.inl hxy
      · exact Or.inr ⟨rfl, ih (by simpa using hlen) hab⟩

/-- Numbers that fit are ordered as their digits. -/
theorem hex_lt_hex {width m n : Nat} (hmn : m < n) (hn : n < 16 ^ width) :
    hex width m < hex width n := by
  induction width generalizing m n with
  | zero => omega
  | succ width ih =>
    rw [hex, hex]
    by_cases hhigh : m / 16 < n / 16
    · have hfits : n / 16 < 16 ^ width := by
        rw [Nat.pow_succ] at hn
        omega
      exact append_lt_append (by simp) (ih hhigh hfits) _ _
    · -- the numbers differ in their last digit only
      have hsame : m / 16 = n / 16 := by omega
      have hlast : m % 16 < n % 16 := by omega
      rw [hsame]
      apply List.append_left_lt
      rw [List.cons_lt_cons_iff]
      exact Or.inl (digitChar_lt_digitChar hlast (Nat.mod_lt _ (by decide)))

end Text

namespace SnowflakeId

/-- **Texts are ordered as numbers.** -/
theorem text_lt_text_iff {a b : SnowflakeId} : a.text < b.text ↔ a.value < b.value := by
  rw [String.lt_iff, text, text, String.toList_ofList, String.toList_ofList]
  constructor
  · intro h
    rcases Nat.lt_trichotomy a.value b.value with hlt | heq | hgt
    · exact hlt
    · rw [digits, digits, heq] at h
      exact absurd h (List.lt_irrefl _)
    · exact absurd h (List.lt_asymm (Text.hex_lt_hex hgt a.isLt))
  · intro h
    exact Text.hex_lt_hex h b.isLt

/-- **Order by parts.** Of two identifiers of one machine the one with the later timestamp
is greater, and within a millisecond the one with the greater sequence number. -/
theorem ofParts_lt_ofParts {t t' s s' : Nat} (machine : Nat) (ht : t' < 2 ^ 41) (hs : s < 2 ^ 7)
    (hs' : s' < 2 ^ 7) (h : t < t' ∨ t = t' ∧ s < s') :
    (ofParts t machine s).value < (ofParts t' machine s').value := by
  simp only [ofParts]
  omega

@[simp] theorem timestamp_ofParts (t machine s : Nat) :
    (ofParts t machine s).timestamp = t % 2 ^ 41 := by
  simp only [ofParts, timestamp]
  omega

@[simp] theorem machine_ofParts (t machine s : Nat) :
    (ofParts t machine s).machine = machine % 2 ^ 16 := by
  simp only [ofParts, SnowflakeId.machine]
  omega

@[simp] theorem sequence_ofParts (t machine s : Nat) :
    (ofParts t machine s).sequence = s % 2 ^ 7 := by
  simp only [ofParts, sequence]
  omega

end SnowflakeId

end HttpPipeline
