import HttpPipeline.Bytes

/-!
# Reading bytes as text whatever they are

`decodeLossy` reads bytes as UTF-8 and puts the replacement character in place of
whatever is not. One replacement stands for the longest run of bytes that a valid
sequence could have begun with, so a sequence cut short is replaced once, and a byte
that begins none is replaced by itself.
-/

namespace HttpPipeline.Text

/-- The replacement character. -/
def replacement : Char := '\ufffd'

/-- A byte that continues a sequence. -/
def isContinuation (b : UInt8) : Bool := 0x80 ≤ b && b ≤ 0xbf

/-- The bytes that may come second after a first byte of a longer sequence, and how
long that sequence is. -/
def secondRange? (first : UInt8) : Option (UInt8 × UInt8 × Nat) :=
  if 0xc2 ≤ first && first ≤ 0xdf then some (0x80, 0xbf, 2)
  else if first == 0xe0 then some (0xa0, 0xbf, 3)
  else if (0xe1 ≤ first && first ≤ 0xec) || first == 0xee || first == 0xef then
    some (0x80, 0xbf, 3)
  else if first == 0xed then some (0x80, 0x9f, 3)
  else if first == 0xf0 then some (0x90, 0xbf, 4)
  else if 0xf1 ≤ first && first ≤ 0xf3 then some (0x80, 0xbf, 4)
  else if first == 0xf4 then some (0x80, 0x8f, 4)
  else none

/-- The character that the first of two pieces of a sequence begins, and how many
bytes after the first belong to it or to its replacement. -/
def decodeOne (first : UInt8) (rest : Bytes) : Char × Nat :=
  if first < 0x80 then (Char.ofNat first.toNat, 0)
  else match secondRange? first with
    | none => (replacement, 0)
    | some (lo, hi, length) =>
      match rest with
      | [] => (replacement, 0)
      | second :: later =>
        if second < lo || hi < second then (replacement, 0)
        else
          let tail := (later.take (length - 2)).takeWhile isContinuation
          if tail.length < length - 2 then (replacement, 1 + tail.length)
          else
            let lead := first.toNat % 2 ^ (7 - length)
            let code := (second :: tail).foldl (fun n b => n * 64 + b.toNat % 64) lead
            (Char.ofNat code, 1 + tail.length)

/-- **Reading bytes as text whatever they are.** -/
def decodeLossy (bytes : Bytes) : List Char :=
  match bytes with
  | [] => []
  | first :: rest =>
    let (c, used) := decodeOne first rest
    c :: decodeLossy (rest.drop used)
termination_by bytes.length
decreasing_by
  simp only [List.length_drop, List.length_cons]
  omega

end HttpPipeline.Text
