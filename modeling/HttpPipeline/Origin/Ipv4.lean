import HttpPipeline.Text.Ascii

/-!
# IPv4 addresses as host names

A host name whose last label is a number is an IPv4 address or nothing. The numbers
between its dots may be decimal, octal after a leading `0` or hexadecimal after
`0x`, and there may be fewer than four of them: the last one then fills the bytes
that are left. A dot at the end is of no account.

`Ipv4.ofHost?` reads such a name as the number of the address, and `Ipv4.text`
writes a number as an address: four decimal numbers.
-/

namespace HttpPipeline.Ipv4

/-- A number between dots. The outer `none` is no number at all, the inner one a
number beyond 32 bits. -/
def number? (label : List Char) : Option (Option Nat) :=
  let read (base : Nat) (digits : List Char) : Option (Option Nat) :=
    if digits.isEmpty then some (some 0)
    else if digits.all fun c => (Text.hexValue? c).any (· < base) then
      let n := digits.foldl (fun n c => base * n + (Text.hexValue? c).getD 0) 0
      some (if n < 2 ^ 32 then some n else none)
    else none
  match label with
  | [] => none
  | '0' :: 'x' :: digits => read 16 digits
  | '0' :: 'X' :: digits => read 16 digits
  | '0' :: d :: digits => read 8 (d :: digits)
  | digits => read 10 digits

/-- The labels of a host name, without an empty one at the end. -/
def labels (host : List Char) : List (List Char) :=
  let all := Text.splitOn '.' host
  if all.getLast? = some [] then all.dropLast else all

/-- Whether the last label of a host name is a number. -/
def endsInNumber (host : List Char) : Bool :=
  match (labels host).getLast? with
  | none => false
  | some last =>
    (!last.isEmpty && last.all Text.isDigit) || (number? last).isSome

/-- The number of the address that a host name is. -/
def ofHost? (host : List Char) : Option Nat := do
  let parts := labels host
  if 4 < parts.length then none
  let numbers ← parts.mapM fun label => (number? label).join
  let last ← numbers.getLast?
  let front := numbers.dropLast
  -- the last number fills the bytes that the others leave
  if front.any (255 < ·) || 256 ^ (4 - front.length) ≤ last then none
  return front.zipIdx.foldl (fun sum (n, i) => sum + n * 256 ^ (3 - i)) last

/-- An address in writing. -/
def text (address : Nat) : List Char :=
  let part (i : Nat) := (Text.decimal (address / 256 ^ i % 256)).toList
  part 3 ++ '.' :: part 2 ++ '.' :: part 1 ++ '.' :: part 0

end HttpPipeline.Ipv4
