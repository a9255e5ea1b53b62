import HttpPipeline.Number.Power

/-!
# Rounding to the nearest whole number

`nearest q` is the whole number nearest to `q`; of two that are equally near it is
the even one. Both the significand of a floating-point number and a duration
counted in nanoseconds are rounded this way, each once, from the exact value.

`powerOfTwo` and `binaryLog` place a positive number on the binary scale: the
logarithm is the greatest exponent whose power does not exceed the number.
-/

namespace HttpPipeline

/-- The whole number nearest to `q`, of two equally near ones the even one. -/
def nearest (q : Rat) : Int :=
  let below := q.floor
  let part := q - below
  if part < 1 / 2 then below
  else if 1 / 2 < part then below + 1
  else if below % 2 = 0 then below
  else below + 1

/-- The power of two with a given exponent. -/
def powerOfTwo : (exponent : Int) → Rat
  | .ofNat n => ((2 ^ n : Nat) : Rat)
  | .negSucc n => 1 / ((2 ^ (n + 1) : Nat) : Rat)

/-- The greatest exponent whose power of two does not exceed a positive `q`. The
lengths of numerator and denominator determine it up to one. -/
def binaryLog (q : Rat) : Int :=
  let guess : Int := (q.num.natAbs.log2 : Int) - (q.den.log2 : Int)
  if powerOfTwo guess ≤ q then guess else guess - 1

/-- The power of ten with a given exponent. -/
def powerOfTen : (exponent : Int) → Rat
  | .ofNat n => ((10 ^ n : Nat) : Rat)
  | .negSucc n => 1 / ((10 ^ (n + 1) : Nat) : Rat)

end HttpPipeline
