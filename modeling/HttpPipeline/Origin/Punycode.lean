import HttpPipeline.Text.Ascii

/-!
# Labels in ASCII

Punycode writes a label with arbitrary characters in lower-case letters, digits and
hyphens. The ASCII characters of the label come first, and a hyphen after them if there are
any. Then follow, for the other characters in the order of their numbers, instructions
where to insert each: a counter runs through all places in the text so far, for one number
after the other, and an instruction says how many of these to pass over.

An instruction is a number in base 36, lowest digit first, whose last digit is one below a
threshold. The threshold of each digit depends on a bias, which is adapted to the size of
the last instruction.
-/

namespace HttpPipeline.Punycode

/-- The number of the first character that is inserted. -/
def firstCode : Nat := 128

/-- The bias of the first instruction. -/
def firstBias : Nat := 72

/-- The threshold of a digit, given the place of the digit times 36. -/
def threshold (place bias : Nat) : Nat := min 26 (max 1 (place - bias))

theorem threshold_pos (place bias : Nat) : 0 < threshold place bias := by
  unfold threshold
  omega

theorem threshold_le (place bias : Nat) : threshold place bias ≤ 26 := by
  unfold threshold
  omega

/-- How often a number has to be divided by 35 to come down to 455, times 36, and what is
left of it. -/
def reduce (delta : Nat) : Nat × Nat :=
  if delta ≤ 455 then (0, delta)
  else
    let (steps, rest) := reduce (delta / 35)
    (steps + 36, rest)
termination_by delta
decreasing_by omega

/-- The bias after an instruction, given how long the text is after it. -/
def adapt (delta length : Nat) (isFirst : Bool) : Nat :=
  let delta := if isFirst then delta / 700 else delta / 2
  let (steps, rest) := reduce (delta + delta / length)
  steps + 36 * rest / (rest + 38)

/-- The digit of a value below 36. -/
def digit (n : Nat) : Char :=
  if n < 26 then Char.ofNat ('a'.toNat + n) else Char.ofNat ('0'.toNat + (n - 26))

/-- The value of a digit. -/
def value? (c : Char) : Option Nat :=
  if 'a' ≤ c && c ≤ 'z' then some (c.toNat - 'a'.toNat)
  else if Text.isDigit c then some (c.toNat - '0'.toNat + 26)
  else none

/-! ### Writing -/

/-- An instruction in writing. -/
def number (bias : Nat) (place n : Nat) : List Char :=
  let t := threshold place bias
  if n < t then [digit n]
  else digit (t + (n - t) % (36 - t)) :: number bias (place + 36) ((n - t) / (36 - t))
termination_by n
decreasing_by
  have h1 := threshold_pos place bias
  have h2 : (n - threshold place bias) / (36 - threshold place bias) ≤ n - threshold place bias :=
    Nat.div_le_self _ _
  omega

/-- What writing has come to. -/
structure Writing where
  /-- What is written. -/
  text : List Char := []
  /-- Places passed over since the last instruction. -/
  delta : Nat := 0
  bias : Nat := firstBias
  /-- Characters dealt with. -/
  done : Nat

namespace Writing

/-- One character of the label is passed while those with number `code` are inserted;
`basic` is how many characters there were at the beginning. -/
def pass (basic code : Nat) (w : Writing) (c : Char) : Writing :=
  if c.toNat < code then { w with delta := w.delta + 1 }
  else if c.toNat = code then
    { text := w.text ++ number w.bias 36 w.delta
      delta := 0
      bias := adapt w.delta (w.done + 1) (w.done == basic)
      done := w.done + 1 }
  else w

/-- The characters of some numbers are inserted, in ascending order; `next` is the number
that the counter stands at. -/
def insertAll (label : List Char) (basic : Nat) : (codes : List Nat) → (next : Nat) → Writing →
    Writing
  | [], _, w => w
  | code :: codes, next, w =>
    let w := { w with delta := w.delta + (code - next) * (w.done + 1) }
    let w := label.foldl (pass basic code) w
    insertAll label basic codes (code + 1) { w with delta := w.delta + 1 }

end Writing

/-- **Writing a label.** -/
def encode (label : List Char) : List Char :=
  let basic := label.filter (·.toNat < firstCode)
  let codes := (((label.map Char.toNat).filter (firstCode ≤ ·)).mergeSort).eraseDups
  let start : Writing := { text := if basic.isEmpty then [] else basic ++ ['-']
                           done := basic.length }
  (start.insertAll label basic.length codes firstCode).text

/-! ### Reading -/

/-- What reading has come to: the text so far, the number and the place of the last
character inserted, and the instruction that is being read. -/
structure Reading where
  text : List Char
  code : Nat := firstCode
  place : Nat := 0
  bias : Nat := firstBias
  isFirst : Bool := true
  /-- What the digits of the instruction amount to so far. -/
  delta : Nat := 0
  /-- What the next digit counts. -/
  weight : Nat := 1
  /-- The place of the next digit times 36. -/
  digitPlace : Nat := 36

namespace Reading

/-- One digit is read. After the last one of an instruction it is carried out. -/
def step (r : Reading) (c : Char) : Option Reading := do
  let d ← value? c
  let t := threshold r.digitPlace r.bias
  let delta := r.delta + d * r.weight
  if d < t then
    let length := r.text.length + 1
    -- the counter runs through the places for one number after the other
    let counter := r.place + delta
    let code := r.code + counter / length
    let place := counter % length
    if code.isValidChar then
      some
        { text := r.text.insertIdx place (Char.ofNat code)
          code
          place := place + 1
          bias := adapt delta length r.isFirst
          isFirst := false }
    else none
  else some { r with delta, weight := r.weight * (36 - t), digitPlace := r.digitPlace + 36 }

end Reading

/-- The text in front of the last hyphen and what follows it. A hyphen with nothing in
front separates nothing. -/
def splitLast (text : List Char) : List Char × List Char :=
  let tail := (text.reverse.takeWhile (· != '-')).reverse
  if tail.length + 1 < text.length then (text.take (text.length - tail.length - 1), tail)
  else ([], text)

/-- **Reading a label**, in lower case. -/
def decode? (text : List Char) : Option (List Char) := do
  let (basic, digits) := splitLast text
  let r ← digits.foldlM Reading.step { text := basic }
  -- the last instruction must not be cut short
  if r.weight = 1 && r.digitPlace = 36 then some r.text else none

end HttpPipeline.Punycode
