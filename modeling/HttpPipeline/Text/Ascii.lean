import HttpPipeline.Number.Power

/-!
# Letters of the ASCII alphabet

Protocol words are compared without regard to the case of ASCII letters, and
only of those: `lower` and `upper` leave every other character alone, so a
Kelvin sign stays a Kelvin sign. Two texts are equal up to case when their
lower-case forms coincide (`sameIgnoringCase`).

White space is another matter. Values are trimmed of every character that
Unicode calls white space (`isBlank`), of which ASCII has six.
-/

namespace HttpPipeline.Text

/-- The lower-case form of an ASCII letter; any other character unchanged. -/
def lowerChar (c : Char) : Char :=
  if 'A' ≤ c ∧ c ≤ 'Z' then Char.ofNat (c.toNat + 32) else c

/-- The upper-case form of an ASCII letter; any other character unchanged. -/
def upperChar (c : Char) : Char :=
  if 'a' ≤ c ∧ c ≤ 'z' then Char.ofNat (c.toNat - 32) else c

/-- ASCII letters in lower case. -/
def lower (cs : List Char) : List Char := cs.map lowerChar

/-- ASCII letters in upper case. -/
def upper (cs : List Char) : List Char := cs.map upperChar

/-- ASCII letters of a text in lower case. -/
def lowerString (s : String) : String := String.ofList (lower s.toList)

/-- Equality up to the case of ASCII letters. -/
def sameIgnoringCase (a b : List Char) : Bool := lower a == lower b

/-- A decimal digit. -/
def isDigit (c : Char) : Bool := '0' ≤ c && c ≤ '9'

/-- A hexadecimal digit of either case. -/
def isHexDigit (c : Char) : Bool :=
  isDigit c || ('a' ≤ c && c ≤ 'f') || ('A' ≤ c && c ≤ 'F')

/-- An ASCII letter of either case. -/
def isLetter (c : Char) : Bool :=
  ('a' ≤ c && c ≤ 'z') || ('A' ≤ c && c ≤ 'Z')

/-- The value of a hexadecimal digit. -/
def hexValue? (c : Char) : Option Nat :=
  if isDigit c then some (c.toNat - '0'.toNat)
  else if 'a' ≤ c && c ≤ 'f' then some (c.toNat - 'a'.toNat + 10)
  else if 'A' ≤ c && c ≤ 'F' then some (c.toNat - 'A'.toNat + 10)
  else none

/-- The number that hexadecimal digits write. -/
def hexNumber (digits : List Char) : Nat :=
  digits.foldl (fun n c => 16 * n + (hexValue? c).getD 0) 0

/-- The number that decimal digits write. -/
def decimalNumber (digits : List Char) : Nat :=
  digits.foldl (fun n c => 10 * n + (hexValue? c).getD 0) 0

/-- Characters that Unicode calls white space. -/
def isBlank (c : Char) : Bool :=
  let n := c.toNat
  (0x09 ≤ n && n ≤ 0x0d) || n == 0x20 || n == 0x85 || n == 0xa0 || n == 0x1680 ||
    (0x2000 ≤ n && n ≤ 0x200a) || n == 0x2028 || n == 0x2029 || n == 0x202f ||
    n == 0x205f || n == 0x3000

/-- A text without the characters satisfying `p` at either end. -/
def trimBy (p : Char → Bool) (cs : List Char) : List Char :=
  ((cs.dropWhile p).reverse.dropWhile p).reverse

/-- A text without white space at either end. -/
def trim (cs : List Char) : List Char := trimBy isBlank cs

/-- The pieces of a list between the elements equal to `sep`. There is always at
least one piece. -/
def splitOn {α : Type} [BEq α] (sep : α) : List α → List (List α)
  | [] => [[]]
  | x :: xs =>
    if x == sep then [] :: splitOn sep xs
    else match splitOn sep xs with
      | [] => [[x]]
      | piece :: pieces => (x :: piece) :: pieces

/-- What stands before and after the first element equal to `sep`, if there is
one. -/
def cut? {α : Type} [BEq α] (sep : α) : List α → Option (List α × List α)
  | [] => none
  | x :: xs => if x == sep then some ([], xs) else (cut? sep xs).map fun p => (x :: p.1, p.2)

/-- Whether `needle` occurs in a list as consecutive elements. -/
def occurs {α : Type} [BEq α] (needle : List α) : List α → Bool
  | [] => needle.isEmpty
  | x :: xs => needle.isPrefixOf (x :: xs) || occurs needle xs

/-- The digits of `n` in hexadecimal, lower case, exactly `width` of them. -/
def hex (width n : Nat) : List Char :=
  match width with
  | 0 => []
  | width + 1 => hex width (n / 16) ++ [(Nat.digitChar (n % 16))]

/-- The digits of `n` in decimal. -/
def decimal (n : Nat) : String := toString n

/-- A whole number in decimal. -/
def signedDecimal (n : Int) : String := toString n

end HttpPipeline.Text
