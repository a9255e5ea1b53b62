import HttpPipeline.Snowflake.Generator
import HttpPipeline.Text.Utf8

/-!
# The machine part of an identifier

A generator that is not told its machine derives it from the name of its host: the
16 low bits of the FNV-1a hash of the name. The name is what the system gives as a
text ended by a zero byte in a buffer of 255; bytes in it that are not text are
replaced. A name that cannot be read counts as empty, and an event says so.
-/

namespace HttpPipeline

/-- The 64-bit FNV-1a hash. -/
def fnv1a (data : Bytes) : UInt64 :=
  data.foldl (fun h b => (h ^^^ b.toUInt64) * 0x100000001b3) 0xcbf29ce484222325

/-- The machine of a host. -/
def machineOf (host : List Char) : Nat := (fnv1a (Bytes.ofChars host)).toNat % 2 ^ 16

/-- The name of a host as the system gives it: up to the first zero byte, and at
most 255 bytes. -/
def hostText (name : Bytes) : List Char :=
  Text.decodeLossy ((name.takeWhile (· != 0)).take 255)

/-- A generator with the given settings on a host; the name is absent if it cannot
be read. -/
def Generator.ofSettings (settings : GeneratorSettings) (host : Option Bytes) :
    Generator × List Event :=
  match settings.machine, host with
  | some machine, _ => ({ machine, tolerance := settings.driftTolerance }, [])
  | none, some name =>
    ({ machine := machineOf (hostText name), tolerance := settings.driftTolerance }, [])
  | none, none =>
    ({ machine := machineOf [], tolerance := settings.driftTolerance },
      [.hostUnknown "Input/output error (os error 5)"])

end HttpPipeline
