import HttpPipeline.Number.Duration

/-!
# Token buckets

A token bucket admits a request by spending a token. It starts full and is refilled
in proportion to the time that passes, up to its capacity. An attempt at an instant
refills for the time since the last refill, or for no time if the instant is
earlier, and then spends one token if there is one. Otherwise the attempt is turned
away and told how long the missing part of a token takes to come.

The bucket is written once, over numbers of an unspecified kind (`TokenArithmetic`).
Two kinds matter. Over `Binary64` it is the bucket that runs: the refill is a fused
multiplication and addition, rounded once. Over the rational numbers it is the same
bucket without rounding, of which the promise of a rate limit is an exact statement.
-/

namespace HttpPipeline

/-- What a token bucket asks of its numbers. -/
class TokenArithmetic (ν : Type) where
  /-- A whole number. -/
  ofNat : Nat → ν
  /-- A span of time in seconds. -/
  seconds : Duration → ν
  /-- `x * y + z`. -/
  fma : ν → ν → ν → ν
  min : ν → ν → ν
  /-- Whether a number is at least one. -/
  holdsOne : ν → Bool
  sub : ν → ν → ν
  div : ν → ν → ν
  /-- The span of time of a number of seconds, if there is one. -/
  duration? : ν → Option Duration

instance : TokenArithmetic Binary64 where
  ofNat := Binary64.ofNat
  seconds := Duration.toSeconds
  fma := Binary64.fma
  min := Binary64.min
  holdsOne x := Binary64.le (Binary64.ofNat 1) x
  sub := Binary64.sub
  div := Binary64.div
  duration? := Duration.ofSeconds?

instance : TokenArithmetic Rat where
  ofNat n := n
  seconds d := (d.nanoseconds : Rat) / Duration.perSecond
  fma x y z := x * y + z
  min x y := if y < x then y else x
  holdsOne x := decide (1 ≤ x)
  sub x y := x - y
  div x y := x / y
  duration? q := if q < 0 then none else some ⟨(q * Duration.perSecond).ceil.toNat⟩

/-- A token bucket. Instants are nanoseconds on a clock. -/
structure Bucket (ν : Type) where
  capacity : ν
  /-- Tokens per second. -/
  rate : ν
  tokens : ν
  lastRefill : Int
  deriving DecidableEq, Repr

/-- What becomes of an attempt. -/
inductive Admission
  | admitted
  /-- Turned away; a token will have come after so long. -/
  | rejected (retryAfter : Duration)
  deriving DecidableEq, Repr, Inhabited

namespace Bucket

variable {ν : Type} [TokenArithmetic ν]

open TokenArithmetic

/-- A full bucket at an instant. -/
def full (rate : ν) (burst : Nat) (now : Int) : Bucket ν :=
  { capacity := ofNat burst, rate, tokens := ofNat burst, lastRefill := now }

/-- The bucket refilled at an instant. -/
def refill (b : Bucket ν) (now : Int) : Bucket ν :=
  { b with
    tokens := min (fma (seconds (.between b.lastRefill now)) b.rate b.tokens) b.capacity
    lastRefill := max b.lastRefill now }

/-- How long the missing part of a token takes to come. -/
def wait (b : Bucket ν) : Duration :=
  (duration? (div (sub (ofNat 1) b.tokens) b.rate)).getD .longest

/-- **An attempt at an instant.** -/
def acquireAt (b : Bucket ν) (now : Int) : Admission × Bucket ν :=
  let b := b.refill now
  -- the refill is kept even if the attempt is turned away
  if holdsOne b.tokens then (.admitted, { b with tokens := sub b.tokens (ofNat 1) })
  else (.rejected b.wait, b)

/-- Attempts at instants, one after the other. -/
def run (b : Bucket ν) : List Int → List Admission × Bucket ν
  | [] => ([], b)
  | now :: later =>
    let (admission, b) := b.acquireAt now
    let (admissions, b) := run b later
    (admission :: admissions, b)

end Bucket

end HttpPipeline
