import HttpPipeline.Text.Ascii

/-!
# Sets of characters as ranges

Properties of characters are given by tables of ranges. A table is written as lines of
words, each a number in hexadecimal, or two with a hyphen between them: the first and the
last of a range.
-/

namespace HttpPipeline.Text

/-- Ranges of characters, given by the numbers of their ends. -/
abbrev Ranges := List (Nat × Nat)

namespace Ranges

/-- The range that a word writes. -/
def ofWord (word : List Char) : Nat × Nat :=
  match cut? '-' word with
  | some (first, last) => (hexNumber first, hexNumber last)
  | none => (hexNumber word, hexNumber word)

/-- The ranges that a line writes. -/
def ofText (line : List Char) : Ranges :=
  ((splitOn ' ' line).filter (!·.isEmpty)).map ofWord

/-- The ranges that some lines write. -/
def ofLines (lines : List String) : Ranges := lines.flatMap fun line => ofText line.toList

/-- Whether a character is in one of the ranges. -/
def contains (r : Ranges) (c : Char) : Bool :=
  r.any fun (first, last) => first ≤ c.toNat && c.toNat ≤ last

end Ranges

end HttpPipeline.Text
