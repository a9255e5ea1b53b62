import HttpPipeline.Number.Binary64

/-!
# Spans of time

A `Duration` is a span of time in whole nanoseconds, at most `2 ^ 64` seconds less
a nanosecond. Measured in seconds it is a floating-point number: the whole seconds
plus the quotient of the remaining nanoseconds by `10 ^ 9`, each step rounded. In
the other direction a number of seconds is rounded to the nearest nanosecond, once,
from its exact value; a negative, infinite or too large number is no duration.
-/

namespace HttpPipeline

/-- A span of time. -/
structure Duration where
  nanoseconds : Nat
  deriving DecidableEq, Repr, Inhabited

namespace Duration

/-- Nanoseconds in a second. -/
def perSecond : Nat := 1000000000

/-- The longest duration. -/
def longest : Duration := ⟨2 ^ 64 * perSecond - 1⟩

/-- The duration of some seconds and nanoseconds. -/
def ofParts (seconds nanoseconds : Nat) : Duration := ⟨seconds * perSecond + nanoseconds⟩

/-- The whole seconds. -/
def seconds (d : Duration) : Nat := d.nanoseconds / perSecond

/-- The nanoseconds beyond the whole seconds. -/
def subsecond (d : Duration) : Nat := d.nanoseconds % perSecond

/-- The time from an earlier instant to a later one; nothing if it is not later.
Instants are nanoseconds on a clock. -/
def between (earlier later : Int) : Duration := ⟨(later - earlier).toNat⟩

/-- The duration in seconds. -/
def toSeconds (d : Duration) : Binary64 :=
  .ofNat d.seconds + .ofNat d.subsecond / .ofNat perSecond

/-- The duration in milliseconds. -/
def toMilliseconds (d : Duration) : Binary64 := d.toSeconds * .ofNat 1000

/-- The duration of a number of seconds, rounded to the nearest nanosecond. -/
def ofSeconds? (x : Binary64) : Option Duration :=
  match x.toRat? with
  | none => none
  | some q =>
    let n := nearest (q * perSecond)
    -- what is rounded up to the bound is too large as well
    if q < 0 || (2 ^ 64 * perSecond : Nat) ≤ n then none else some ⟨n.toNat⟩

/-- Seconds for a `Retry-After` header: rounded up, and at least one. -/
def retryAfterSeconds (d : Duration) : Nat :=
  let rounded := if 0 < d.subsecond then min (d.seconds + 1) (2 ^ 64 - 1) else d.seconds
  max rounded 1

end Duration

end HttpPipeline
