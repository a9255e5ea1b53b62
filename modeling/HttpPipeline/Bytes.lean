import HttpPipeline.Number.Power

/-!
# Bytes

Everything that travels through the pipeline (header values, bodies, compressed
members, what a taken-over connection says) is a finite sequence of bytes, kept
as a list so that laws about it are laws about lists. Text enters as the UTF-8
form of its characters, `Bytes.ofString`, and leaves through `Bytes.text?`, which
is defined exactly when the bytes are such a form.
-/

namespace HttpPipeline

/-- A finite sequence of bytes. -/
abbrev Bytes := List UInt8

namespace Bytes

/-- The UTF-8 form of a list of characters. -/
def ofChars (cs : List Char) : Bytes :=
  cs.flatMap String.utf8EncodeChar

/-- The UTF-8 form of a text. -/
def ofString (s : String) : Bytes :=
  ofChars s.toList

/-- The text whose UTF-8 form the bytes are, if there is one. -/
def text? (b : Bytes) : Option String :=
  String.fromUTF8? ⟨b.toArray⟩

/-- Each byte as the character of the same number; the inverse of `ofString` on
ASCII. -/
def toAscii (b : Bytes) : String :=
  String.ofList (b.map fun x => Char.ofNat x.toNat)

/-- The `width` low bytes of `n`, least significant first. -/
def littleEndian : (width : Nat) → (n : Nat) → Bytes
  | 0, _ => []
  | width + 1, n => UInt8.ofNat (n % 256) :: littleEndian width (n / 256)

@[simp] theorem length_littleEndian (width n : Nat) :
    (littleEndian width n).length = width := by
  induction width generalizing n with
  | zero => rfl
  | succ width ih => simp [littleEndian, ih]

@[simp] theorem ofChars_nil : ofChars [] = [] := rfl

@[simp] theorem ofChars_append (a b : List Char) :
    ofChars (a ++ b) = ofChars a ++ ofChars b := by
  simp [ofChars]

end Bytes

end HttpPipeline
