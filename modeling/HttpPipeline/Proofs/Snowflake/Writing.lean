import HttpPipeline.Proofs.Snowflake.Order
import HttpPipeline.Proofs.Text.Digits
import HttpPipeline.Proofs.Text.Pieces
import Mathlib.Data.Prod.Lex

/-!
# Identifiers in writing and in parts

An identifier is one number in three guises. As a text it is 16 hexadecimal digits, as a triple it
is a timestamp, a machine and a sequence number. Both are faithful, and all three are ordered alike
(`SnowflakeId.guises_agree`).

* **Texts.** The reader looks at characters, of which it wants 16 from the hexadecimal alphabet
  (`SnowflakeId.parse?_isSome_iff`). It could as well look at bytes (`Bytes.ofString_digits_iff`): a
  text of 16 bytes with a character beyond ASCII has a byte beyond ASCII, which is no digit. What it
  reads is written in lower case, and different texts in lower case are different identifiers.
* **Parts.** The parts are the digits of the number in a mixed radix, so that packing and unpacking
  are division with remainder (`SnowflakeId.ofParts_parts`), and the order of numbers is the
  lexicographic order of their digits (`SnowflakeId.value_lt_value_iff`).
-/

namespace HttpPipeline

/-! ### Digits as bytes -/

/-- A digit is a character of ASCII. -/
theorem Text.isHexDigit_ascii {c : Char} (h : isHexDigit c = true) : c.toNat < 128 := by
  have hall : ∀ d, isHexDigit d = true → d.toNat < 128 := forall_isHexDigit (by decide)
  exact hall c h

/-- A digit is a byte of ASCII. -/
theorem Text.isHexDigit_byte {b : UInt8} (h : isHexDigit (Char.ofNat b.toNat) = true) :
    b.toNat < 128 := by
  rw [← toNat_char b]
  exact isHexDigit_ascii h

/-- **So many bytes that are digits** are so many characters that are digits. -/
theorem Bytes.ofString_digits_iff {text : String} {count : Nat} :
    (Bytes.ofString text).length = count ∧
        (∀ b ∈ Bytes.ofString text, Text.isHexDigit (Char.ofNat b.toNat) = true) ↔
      text.length = count ∧ ∀ c ∈ text.toList, Text.isHexDigit c = true := by
  -- on either side every character is of ASCII, and then bytes and characters are the same
  have key (hascii : ∀ c ∈ text.toList, c.toNat < 128) :
      Bytes.ofString text = text.toList.map fun c => UInt8.ofNat c.toNat := ofChars_ascii hascii
  have hchar {c : Char} (hc : c.toNat < 128) : Char.ofNat (UInt8.ofNat c.toNat).toNat = c := by
    rw [toNat_byte hc, Char.ofNat_toNat]
  constructor
  · rintro ⟨hlength, hdigits⟩
    have hascii : ∀ c ∈ text.toList, c.toNat < 128 :=
      Bytes.forall_ofChars_ascii.mp fun b hb => Text.isHexDigit_byte (hdigits b hb)
    rw [key hascii] at hlength hdigits
    refine ⟨by rw [← String.length_toList, ← hlength, List.length_map], fun c hc => ?_⟩
    rw [← hchar (hascii c hc)]
    exact hdigits _ (List.mem_map_of_mem hc)
  · rintro ⟨hlength, hdigits⟩
    have hascii : ∀ c ∈ text.toList, c.toNat < 128 := by
      intro c hc
      exact Text.isHexDigit_ascii (hdigits c hc)
    rw [key hascii]
    refine ⟨by rw [List.length_map, String.length_toList, hlength], fun b hb => ?_⟩
    obtain ⟨c, hc, rfl⟩ := List.mem_map.mp hb
    rw [hchar (hascii c hc)]
    exact hdigits c hc

namespace SnowflakeId

theorem eq_of_value {a b : SnowflakeId} (h : a.value = b.value) : a = b := by
  cases a
  cases b
  obtain rfl := h
  rfl

/-! ### Texts -/

/-- **Written and read**: the text of an identifier is read as that identifier. -/
theorem parse?_text (id : SnowflakeId) : parse? id.text.toList = some id := by
  have hdigits : ∀ c ∈ id.digits, Text.isHexDigit c = true := by
    intro c hc
    obtain ⟨digit, hdigit, rfl⟩ := Text.mem_hex hc
    exact (Text.hexValue?_digitChar hdigit).1
  have hnumber : Text.hexNumber id.digits = id.value := Text.hexNumber_hex id.isLt
  have hform : id.digits.length = 16 ∧ id.digits.all Text.isHexDigit :=
    ⟨Text.length_hex 16 id.value, List.all_eq_true.mpr hdigits⟩
  rw [text, String.toList_ofList, parse?, if_pos hform, hnumber]
  exact congrArg some (eq_of_value (Nat.mod_eq_of_lt id.isLt))

/-- **Read and written**: what is read from 16 digits of either case is written with the same
digits in lower case. -/
theorem digits_of_parse? {cs : List Char} {id : SnowflakeId} (h : parse? cs = some id) :
    cs.length = 16 ∧ (∀ c ∈ cs, Text.isHexDigit c = true) ∧ id.digits = Text.lower cs := by
  unfold parse? at h
  split_ifs at h with hform
  obtain ⟨hlength, hall⟩ := hform
  have hdigits : ∀ c ∈ cs, Text.isHexDigit c = true := List.all_eq_true.mp hall
  obtain rfl := Option.some.inj h
  -- 16 digits are a number of 64 bits, so nothing is lost when the low ones are taken
  have hfits : Text.hexNumber cs < 2 ^ 64 := by
    have hlt := Text.hexNumber_lt cs
    rw [hlength] at hlt
    exact hlt
  refine ⟨hlength, hdigits, ?_⟩
  calc (ofNat (Text.hexNumber cs)).digits
      = Text.hex 16 (Text.hexNumber cs) := congrArg (Text.hex 16) (Nat.mod_eq_of_lt hfits)
    _ = Text.hex cs.length (Text.hexNumber cs) := by rw [hlength]
    _ = Text.lower cs := Text.hex_hexNumber hdigits

/-- **What is an identifier**: 16 hexadecimal digits. -/
theorem parse?_isSome_iff {text : String} :
    (parse? text.toList).isSome ↔ text.length = 16 ∧ ∀ c ∈ text.toList, c ∈ Text.hexAlphabet := by
  unfold parse?
  simp only [Option.isSome_ite, String.length_toList, List.all_eq_true, Text.isHexDigit_iff]

/-- **Which identifier it is**: the one that is written with these digits in lower case. -/
theorem parse?_eq_some_iff {text : String} {id : SnowflakeId} :
    parse? text.toList = some id ↔
      (parse? text.toList).isSome ∧ id.text = Text.lowerString text := by
  constructor
  · intro h
    obtain ⟨-, -, hdigits⟩ := digits_of_parse? h
    exact ⟨Option.isSome_of_eq_some h, congrArg String.ofList hdigits⟩
  · rintro ⟨hsome, htext⟩
    obtain ⟨other, hother⟩ := Option.isSome_iff_exists.mp hsome
    obtain ⟨-, -, hdigits⟩ := digits_of_parse? hother
    -- both are written alike, and so both are what is read from that text
    have hsame : other.text = id.text := (congrArg String.ofList hdigits).trans htext.symm
    have hread : some other = some id := by rw [← parse?_text, ← parse?_text, hsame]
    rw [hother, hread]

/-! ### Parts -/

/-- The parts of an identifier, in the order that counts for comparison. -/
def parts (id : SnowflakeId) : ℕ ×ₗ ℕ ×ₗ ℕ :=
  toLex (id.timestamp, toLex (id.machine, id.sequence))

/-- **Unpacked and packed** again. -/
theorem ofParts_parts (id : SnowflakeId) : ofParts id.timestamp id.machine id.sequence = id := by
  have hlt := id.isLt
  refine eq_of_value ?_
  simp only [ofParts, timestamp, machine, sequence]
  omega

/-- **Order by parts** is the order of numbers. -/
theorem value_lt_value_iff {a b : SnowflakeId} : a.value < b.value ↔ a.parts < b.parts := by
  rw [parts, parts, Prod.Lex.toLex_lt_toLex, Prod.Lex.toLex_lt_toLex]
  simp only [timestamp, machine, sequence]
  omega

/-! ### The three guises -/

/-- **Number, text and parts**. The text of an identifier is read as the identifier, and its parts
are packed into it. Any three numbers come out of an identifier reduced to 41, 16 and 7 bits. A text
is read if and only if it is 16 hexadecimal digits, be it looked at by characters or by bytes, and
then as the identifier that is written like it in lower case. And identifiers are ordered alike as
numbers, as texts and by parts. -/
theorem guises_agree (id other : SnowflakeId) (t m s : ℕ) (text : String) :
    parse? id.text.toList = some id ∧
    ofParts id.timestamp id.machine id.sequence = id ∧
    ((ofParts t m s).timestamp = t &&& (2 ^ 41 - 1) ∧
      (ofParts t m s).machine = m &&& (2 ^ 16 - 1) ∧
      (ofParts t m s).sequence = s &&& (2 ^ 7 - 1)) ∧
    ((parse? text.toList).isSome ↔
      text.length = 16 ∧ ∀ c ∈ text.toList, c ∈ "0123456789abcdefABCDEF".toList) ∧
    ((parse? text.toList).isSome ↔ (Bytes.ofString text).length = 16 ∧
      ∀ b ∈ Bytes.ofString text, Text.isHexDigit (Char.ofNat b.toNat) = true) ∧
    (parse? text.toList = some id ↔
      (parse? text.toList).isSome ∧ id.text = Text.lowerString text) ∧
    (id.value < other.value ↔ id.text < other.text) ∧
    (id.value < other.value ↔ id.parts < other.parts) := by
  refine ⟨parse?_text id, ofParts_parts id, ⟨?_, ?_, ?_⟩, parse?_isSome_iff, ?_,
    parse?_eq_some_iff, text_lt_text_iff.symm, value_lt_value_iff⟩
  · rw [timestamp_ofParts, Nat.and_two_pow_sub_one_eq_mod]
  · rw [machine_ofParts, Nat.and_two_pow_sub_one_eq_mod]
  · rw [sequence_ofParts, Nat.and_two_pow_sub_one_eq_mod]
  · rw [Bytes.ofString_digits_iff, parse?_isSome_iff]
    simp only [Text.isHexDigit_iff]

end SnowflakeId

end HttpPipeline
