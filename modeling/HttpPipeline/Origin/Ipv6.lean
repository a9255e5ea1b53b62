import HttpPipeline.Text.Ascii

/-!
# IPv6 addresses as host names

An IPv6 address has eight groups of 16 bits, written in hexadecimal with colons
between them. Once, a run of zero groups may be left out, and the last two groups may
be written as an IPv4 address.

`Ipv6.parse?` reads an address without its brackets. `Ipv6.text` writes one: the
groups without leading zeros, and the longest run of at least two zero groups, the
first of several, left out.
-/

namespace HttpPipeline.Ipv6

/-- Up to four hexadecimal digits in front: how many, their number, and the rest. -/
def group (cs : List Char) : Nat × Nat × List Char :=
  let digits := (cs.take 4).takeWhile Text.isHexDigit
  (digits.length, Text.hexNumber digits,
    cs.drop digits.length)

/-- A decimal number of at most 255 without a leading zero, and the rest. -/
def octet? (cs : List Char) : Option (Nat × List Char) :=
  let digits := cs.takeWhile Text.isDigit
  let n := Text.decimalNumber digits
  if digits.isEmpty || (digits.head? = some '0' && digits.length ≠ 1) || 3 < digits.length ||
      255 < n then none
  else some (n, cs.drop digits.length)

/-- The two groups of an IPv4 address that ends the text. -/
def quad? (cs : List Char) : Option (Nat × Nat) := do
  let (a, cs) ← octet? cs
  let '.' :: cs := cs | none
  let (b, cs) ← octet? cs
  let '.' :: cs := cs | none
  let (c, cs) ← octet? cs
  let '.' :: cs := cs | none
  let (d, cs) ← octet? cs
  if cs.isEmpty then some (a * 256 + b, c * 256 + d) else none

/-- The groups from a place in the text on. `count` groups stand before it, and
`gap` says after how many of all groups a run of zeros was left out; one zero group
stands in for the run. -/
def groups? : (fuel : Nat) → (count : Nat) → (gap : Option Nat) → List Char →
    Option (List Nat × Option Nat)
  | 0, _, _, _ => none
  | _, _, gap, [] => some ([], gap)
  | fuel + 1, count, gap, cs =>
    if count = 8 then none
    else match cs with
      | ':' :: cs =>
        if gap.isSome then none
        else (groups? fuel (count + 1) (some (count + 1)) cs).map fun (ns, gap) => (0 :: ns, gap)
      | cs =>
        let (length, n, rest) := group cs
        match rest with
        | '.' :: _ =>
          -- the digits read belong to the first octet
          if length = 0 || 6 < count then none
          else (quad? cs).map fun (hi, lo) => ([hi, lo], gap)
        | ':' :: [] => none
        | ':' :: rest => (groups? fuel (count + 1) gap rest).map fun (ns, gap) => (n :: ns, gap)
        | [] => some ([n], gap)
        | _ => none

/-- **Reading an address** as its eight groups. A run left out at the very front is
written with two colons, like one further in. -/
def parse? (cs : List Char) : Option (List Nat) := do
  let (ns, gap) ←
    match cs with
    | ':' :: ':' :: rest =>
      (groups? (cs.length + 1) 1 (some 1) rest).map fun (ns, gap) => (0 :: ns, gap)
    | ':' :: _ => none
    | cs => groups? (cs.length + 1) 0 none cs
  match gap with
  | none => if ns.length = 8 then some ns else none
  | some n => some (ns.take n ++ List.replicate (8 - ns.length) 0 ++ ns.drop n)

/-- How many zeros stand in front. -/
def zerosInFront (groups : List Nat) : Nat := (groups.takeWhile (· == 0)).length

/-- The place and the length of the longest run of at least two zero groups, the
first of several. -/
def longestZeros (groups : List Nat) : Option (Nat × Nat) :=
  (List.range groups.length).foldl (fun best i =>
    let length := zerosInFront (groups.drop i)
    match best with
    | none => if 2 ≤ length then some (i, length) else none
    | some (_, most) => if most < length then some (i, length) else best) none

/-- Groups with colons between them. -/
def joined (groups : List Nat) : List Char :=
  (":".intercalate (groups.map fun n => String.ofList (Nat.toDigits 16 n))).toList

/-- **An address in writing.** -/
def text (groups : List Nat) : List Char :=
  match longestZeros groups with
  | none => joined groups
  | some (place, length) =>
    joined (groups.take place) ++ "::".toList ++ joined (groups.drop (place + length))

end HttpPipeline.Ipv6
