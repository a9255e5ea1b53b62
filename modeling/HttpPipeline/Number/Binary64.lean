import HttpPipeline.Number.Nearest
import HttpPipeline.Text.Ascii

/-!
# Binary floating-point numbers of 64 bits

A `Binary64` is a number of the binary64 format of IEEE 754: not a number, an
infinity, or a finite number `± significand * 2 ^ exponent`. Arithmetic is exact
arithmetic on rational numbers followed by one rounding, `Binary64.round`: to the
nearest number of the format, of two equally near ones to the one with the even
significand, and to an infinity if that lies beyond the largest finite number. A
fused multiplication and addition is therefore `round (x * y + z)`, rounded once.

`round` is also what a decimal numeral means: `ofDecimal` rounds the number that
the numeral writes.

The two zeros have the same value. Their sign decides only the sign of an infinity
and the bits shown.
-/

namespace HttpPipeline

/-- A number of the binary64 format. -/
inductive Binary64
  | nan
  | infinite (negative : Bool)
  /-- The number `± significand * 2 ^ exponent`. -/
  | finite (negative : Bool) (significand : Nat) (exponent : Int)
  deriving DecidableEq, Repr, Inhabited

namespace Binary64

/-- The exponent of the smallest numbers of the format. -/
def minExponent : Int := -1074

/-- The exponent of the largest finite numbers of the format. -/
def maxExponent : Int := 971

/-- A zero with a sign. -/
def zero (negative : Bool) : Binary64 := .finite negative 0 minExponent

/-- The value of a finite number. -/
def toRat? : Binary64 → Option Rat
  | .finite negative m e =>
    some ((if negative then -1 else 1) * (m : Rat) * powerOfTwo e)
  | _ => none

/-- The exponent at which a positive number is rounded: its leading 53 binary
digits are kept, or fewer where the format has no smaller exponent. -/
def roundingExponent (q : Rat) : Int := max minExponent (binaryLog q - 52)

/-- **Rounding.** The number of the format nearest to `q`; the zero that stands
for an exact zero has the sign `negativeZero`. -/
def round (q : Rat) (negativeZero : Bool) : Binary64 :=
  if q = 0 then zero negativeZero
  else
    let negative := decide (q < 0)
    let magnitude := if negative then -q else q
    let e := roundingExponent magnitude
    let m := (nearest (magnitude * powerOfTwo (-e))).toNat
    -- rounding up may have carried into a further digit
    let (m, e) := if m = 2 ^ 53 then (2 ^ 52, e + 1) else (m, e)
    if maxExponent < e then .infinite negative else .finite negative m e

/-! ### Reading values -/

/-- A whole number, rounded. -/
def ofNat (n : Nat) : Binary64 := round n false

/-- Neither infinite nor without value. -/
def isFinite : Binary64 → Bool
  | .finite .. => true
  | _ => false

/-- The sign bit. -/
def isNegative : Binary64 → Bool
  | .nan => false
  | .infinite negative => negative
  | .finite negative _ _ => negative

/-- Either zero. -/
def isZero : Binary64 → Bool
  | .finite _ 0 _ => true
  | _ => false

/-- The strict order of values; nothing is related to `nan`. -/
def lt : Binary64 → Binary64 → Bool
  | .nan, _ => false
  | _, .nan => false
  | .infinite a, .infinite b => a && !b
  | .infinite a, .finite .. => a
  | .finite .., .infinite b => !b
  | x@(.finite ..), y@(.finite ..) => decide ((x.toRat?.getD 0) < (y.toRat?.getD 0))

/-- The order of values; nothing is related to `nan`. -/
def le : Binary64 → Binary64 → Bool
  | .nan, _ => false
  | _, .nan => false
  | x, y => !lt y x

/-! ### Arithmetic -/

/-- The number with the other sign. -/
def neg : Binary64 → Binary64
  | .nan => .nan
  | .infinite negative => .infinite (!negative)
  | .finite negative m e => .finite (!negative) m e

/-- **Fused multiplication and addition**: `x * y + z`, rounded once. -/
def fma (x y z : Binary64) : Binary64 :=
  let sign := x.isNegative != y.isNegative
  match x, y, z with
  | .nan, _, _ => .nan
  | _, .nan, _ => .nan
  | _, _, .nan => .nan
  | .infinite _, b, c | b, .infinite _, c =>
    if b.isZero then .nan
    else match c with
      | .infinite negative => if negative = sign then c else .nan
      | _ => .infinite sign
  | .finite .., .finite .., .infinite negative => .infinite negative
  | .finite .., .finite .., .finite negative _ _ =>
    round ((x.toRat?.getD 0) * (y.toRat?.getD 0) + (z.toRat?.getD 0)) (sign && negative)

/-- Addition: the sum, rounded. -/
def add (x y : Binary64) : Binary64 :=
  match x, y with
  | .nan, _ | _, .nan => .nan
  | .infinite a, .infinite b => if a = b then x else .nan
  | .infinite _, _ => x
  | _, .infinite _ => y
  | .finite a _ _, .finite b _ _ => round ((x.toRat?.getD 0) + (y.toRat?.getD 0)) (a && b)

/-- Subtraction: the difference, rounded. -/
def sub (x y : Binary64) : Binary64 := add x (neg y)

/-- Multiplication: the product, rounded. -/
def mul (x y : Binary64) : Binary64 :=
  let sign := x.isNegative != y.isNegative
  match x, y with
  | .nan, _ | _, .nan => .nan
  | .infinite _, b | b, .infinite _ => if b.isZero then .nan else .infinite sign
  | .finite .., .finite .. => round ((x.toRat?.getD 0) * (y.toRat?.getD 0)) sign

/-- Division: the quotient, rounded. A nonzero number divided by a zero is
infinite. -/
def div (x y : Binary64) : Binary64 :=
  let sign := x.isNegative != y.isNegative
  match x, y with
  | .nan, _ | _, .nan => .nan
  | .infinite _, .infinite _ => .nan
  | .infinite _, _ => .infinite sign
  | _, .infinite _ => zero sign
  | .finite .., .finite _ 0 _ => if x.isZero then .nan else .infinite sign
  | .finite .., .finite .. => round ((x.toRat?.getD 0) / (y.toRat?.getD 0)) sign

/-- The lesser of two numbers, or the one that is a number. -/
def min (x y : Binary64) : Binary64 :=
  match x, y with
  | .nan, _ => y
  | _, .nan => x
  | _, _ => if lt y x then y else x

instance : Add Binary64 := ⟨add⟩
instance : Sub Binary64 := ⟨sub⟩
instance : Mul Binary64 := ⟨mul⟩
instance : Div Binary64 := ⟨div⟩
instance : Neg Binary64 := ⟨neg⟩

/-! ### Decimal numerals -/

/-- The number that decimal digits write. -/
def digitsValue (digits : List Nat) : Nat := digits.foldl (fun n d => 10 * n + d) 0

/-- The number that `digits * 10 ^ exponent` is rounded to. Exponents that leave
the format on either side, whatever the digits, are not computed with. -/
def ofDecimal (negative : Bool) (digits : List Nat) (exponent : Int) : Binary64 :=
  let digits := digits.dropWhile (· == 0)
  let top : Int := digits.length + exponent
  if digits.isEmpty then zero negative
  else if 400 < top then .infinite negative
  else if top < -400 then zero negative
  else
    let q := (digitsValue digits : Rat) * powerOfTen exponent
    round (if negative then -q else q) negative

/-- The digits in front, and what follows them. -/
def spanDigits (cs : List Char) : List Nat × List Char :=
  ((cs.takeWhile Text.isDigit).map fun c => c.toNat - '0'.toNat, cs.dropWhile Text.isDigit)

/-- The exponent part of a numeral: a letter, a sign and at least one digit. -/
def exponent? : List Char → Option Int
  | [] => some 0
  | c :: cs =>
    if c != 'e' && c != 'E' then none
    else
      let (negative, cs) := match cs with
        | '-' :: cs => (true, cs)
        | '+' :: cs => (false, cs)
        | cs => (false, cs)
      let (digits, rest) := spanDigits cs
      if digits.isEmpty || !rest.isEmpty then none
      else
        let n : Int := digitsValue digits
        some (if negative then -n else n)

/-- **Reading a numeral.** An optional sign, then digits with an optional point
among, before or after them and an optional exponent; or one of the words for
infinity and for not a number, in letters of either case. -/
def parse? (text : List Char) : Option Binary64 :=
  let (negative, cs) := match text with
    | '-' :: cs => (true, cs)
    | '+' :: cs => (false, cs)
    | cs => (false, cs)
  let word := Text.lower cs
  if word == "inf".toList || word == "infinity".toList then some (.infinite negative)
  else if word == "nan".toList then some .nan
  else
    let (whole, rest) := spanDigits cs
    let (fraction, rest) := match rest with
      | '.' :: rest => spanDigits rest
      | rest => ([], rest)
    if whole.isEmpty && fraction.isEmpty then none
    else (exponent? rest).map fun e =>
      ofDecimal negative (whole ++ fraction) (e - fraction.length)

/-! ### Bits -/

/-- The 64 bits of a number. Every `nan` has the same. -/
def toBits : Binary64 → Nat
  | .nan => 0x7ff8000000000000
  | .infinite negative => negative.toNat * 2 ^ 63 + 2047 * 2 ^ 52
  | .finite negative m e =>
    -- the leading digit of a significand is written only where it is missing
    let field := if m < 2 ^ 52 then m else (e - minExponent + 1).toNat * 2 ^ 52 + (m - 2 ^ 52)
    negative.toNat * 2 ^ 63 + field

end Binary64

end HttpPipeline
