import HttpPipeline.Text.Quoted

/-!
# Identifiers that sort by time

A snowflake identifier is a number of 64 bits made of three parts: 41 bits for the
milliseconds since the beginning of 2024, 16 bits for the machine and 7 bits for a
sequence number, the first part highest. It is written as 16 hexadecimal digits in
lower case, so numbers, texts and triples of parts are ordered alike.

`ofParts` packs three numbers, each reduced to its width; `timestamp`, `machine` and
`sequence` unpack. `text` writes an identifier and `parse?` reads 16 hexadecimal
digits of either case, and nothing else.
-/

namespace HttpPipeline

/-- An identifier of 64 bits. -/
structure SnowflakeId where
  value : Nat
  isLt : value < 2 ^ 64
  deriving DecidableEq, Repr

namespace SnowflakeId

/-- The identifier of the 64 low bits of a number. -/
def ofNat (n : Nat) : SnowflakeId := ⟨n % 2 ^ 64, Nat.mod_lt _ (by decide)⟩

/-- The identifier with the given parts, each reduced to its width. -/
def ofParts (timestamp machine sequence : Nat) : SnowflakeId :=
  ⟨timestamp % 2 ^ 41 * 2 ^ 23 + machine % 2 ^ 16 * 2 ^ 7 + sequence % 2 ^ 7, by omega⟩

/-- Milliseconds since the beginning of 2024. -/
def timestamp (id : SnowflakeId) : Nat := id.value / 2 ^ 23

/-- The machine. -/
def machine (id : SnowflakeId) : Nat := id.value / 2 ^ 7 % 2 ^ 16

/-- The sequence number within a millisecond. -/
def sequence (id : SnowflakeId) : Nat := id.value % 2 ^ 7

/-- The 16 digits of an identifier. -/
def digits (id : SnowflakeId) : List Char := Text.hex 16 id.value

/-- An identifier in writing. -/
def text (id : SnowflakeId) : String := String.ofList id.digits

/-- **Reading an identifier**: 16 hexadecimal digits, and nothing else. -/
def parse? (text : List Char) : Option SnowflakeId :=
  if text.length = 16 ∧ text.all Text.isHexDigit then some (ofNat (Text.hexNumber text)) else none

/-- The wording for a text that is no identifier. -/
def parseErrorMessage (text : String) : String :=
  "invalid snowflake id " ++ Text.quoted text ++ ": expected 16 hex digits"

end SnowflakeId

end HttpPipeline
