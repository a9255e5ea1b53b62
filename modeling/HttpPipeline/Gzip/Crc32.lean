import HttpPipeline.Bytes

/-!
# The CRC-32 checksum

The checksum of a compressed member is the remainder of the data, read as a
polynomial over the two-element field, on division by the polynomial `0xEDB88320`
(in reflected order). `Crc32` is the register of the division: `update` feeds it
bytes, and feeding two pieces one after the other is feeding their concatenation,
so a stream can keep the register between writes.
-/

namespace HttpPipeline

/-- The register of a running checksum. -/
structure Crc32 where
  register : UInt32 := 0xFFFFFFFF
  deriving DecidableEq, Repr, Inhabited

namespace Crc32

/-- The register before any byte. -/
def start : Crc32 := {}

/-- One bit leaves the register. -/
def shiftBit (r : UInt32) : UInt32 :=
  if r &&& 1 == 1 then (r >>> 1) ^^^ 0xEDB88320 else r >>> 1

/-- One byte enters the register. -/
def feedByte (r : UInt32) (b : UInt8) : UInt32 :=
  shiftBit (shiftBit (shiftBit (shiftBit (shiftBit (shiftBit (shiftBit (shiftBit
    (r ^^^ b.toUInt32))))))))

/-- Bytes enter the register. -/
def update (c : Crc32) (data : Bytes) : Crc32 :=
  ⟨data.foldl feedByte c.register⟩

/-- The checksum of the bytes that entered. -/
def value (c : Crc32) : UInt32 := c.register ^^^ 0xFFFFFFFF

theorem update_append (c : Crc32) (a b : Bytes) :
    c.update (a ++ b) = (c.update a).update b := by
  simp [update, List.foldl_append]

@[simp] theorem update_nil (c : Crc32) : c.update [] = c := rfl

end Crc32

/-- The CRC-32 of some bytes. -/
def crc32 (data : Bytes) : UInt32 := (Crc32.start.update data).value

end HttpPipeline
