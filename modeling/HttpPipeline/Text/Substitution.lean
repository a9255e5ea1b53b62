import HttpPipeline.Text.Ranges

/-!
# Tables from characters to texts

A `Substitution` gives a text for each of some characters. Where neighbours go to
neighbours it is given by shifts: a range, a step, and what its first character goes to.
Otherwise it is given by runs: a first character, and what it and those after it go to.
-/

namespace HttpPipeline.Text

/-- Characters at a regular distance, and the first of those that they go to. -/
structure Shift where
  first : Nat
  last : Nat
  step : Nat
  target : Nat
  deriving DecidableEq, Repr

/-- A table from characters to texts. -/
structure Substitution where
  shifts : List Shift := []
  /-- Runs of consecutive characters with what each goes to. -/
  runs : List (Nat × List (List Char)) := []

namespace Substitution

/-- The shift that a word writes: a range, a colon, and what its first character goes to. -/
def shiftOfWord (step : Nat) (word : List Char) : Shift :=
  match cut? ':' word with
  | some (range, target) =>
    let (first, last) := Ranges.ofWord range
    { first, last, step, target := hexNumber target }
  | none => { first := 0, last := 0, step, target := 0 }

/-- The shifts that some lines write. -/
def shiftsOfLines (step : Nat) (lines : List String) : List Shift :=
  lines.flatMap fun line => (splitOn ' ' line.toList).map (shiftOfWord step)

/-- The text of some numbers with plus signs between them. -/
def textOfWord (word : List Char) : List Char :=
  (splitOn '+' word).map fun digits => Char.ofNat (hexNumber digits)

/-- The run that a line writes: its first character, and what each character goes to. -/
def runOfLine (line : String) : Nat × List (List Char) :=
  match splitOn ' ' line.toList with
  | [] => (0, [])
  | first :: targets => (hexNumber first, targets.map textOfWord)

/-- What a character goes to by one of some shifts. -/
def findShift? (shifts : List Shift) (n : Nat) : Option (List Char) :=
  (shifts.find? fun s => s.first ≤ n && n ≤ s.last && (n - s.first) % s.step == 0).map
    fun s => [Char.ofNat (s.target + (n - s.first))]

/-- What a character goes to in one of some runs. -/
def findRun? (runs : List (Nat × List (List Char))) (n : Nat) : Option (List Char) :=
  runs.findSome? fun (first, targets) => if first ≤ n then targets[n - first]? else none

/-- What a character goes to. -/
def find? (s : Substitution) (c : Char) : Option (List Char) :=
  (findShift? s.shifts c.toNat).or (findRun? s.runs c.toNat)

/-- The character of a run that goes to a text. -/
def source? (s : Substitution) (text : List Char) : Option Char :=
  s.runs.findSome? fun (first, targets) =>
    (targets.findIdx? (· == text)).map fun i => Char.ofNat (first + i)

end Substitution

end HttpPipeline.Text
