import HttpPipeline.Snowflake.Id
import HttpPipeline.Telemetry.Event

/-!
# Generating identifiers

A generator stamps identifiers with the time of a wall clock, which may stand still
or be set back. Its state is the last timestamp and the last sequence number it used.
Each identifier begins with one reading of the clock.

* A reading ahead of the last timestamp starts a new millisecond at sequence 0.
* A reading equal to it takes the next sequence number. When those of a millisecond
  are used up, the generator waits for the next one.
* A reading behind it by no more than the tolerance is waited out.
* A reading further behind is not: the last timestamp is held, and an event says so.
  When its sequence numbers are used up, the timestamp is advanced by a millisecond
  without waiting.

## The clock

A `Clock` lists the readings to come, in milliseconds since the beginning of 2024.
A reading before that counts as 0. Once the list is used up the clock goes on by a
millisecond at each reading, so every wait ends. Since a finite run takes finitely
many readings, any run over any clock in which the waits end is a run over the clock
that lists those readings. The readings taken are kept, the latest first.
-/

namespace HttpPipeline

/-- A wall clock. -/
structure Clock where
  /-- The readings to come. -/
  listed : List Int
  /-- The first reading after those. -/
  next : Int
  /-- The readings taken, the latest first. -/
  taken : List Nat := []
  deriving DecidableEq, Repr

namespace Clock

/-- One reading. -/
def read (c : Clock) : Nat × Clock :=
  match c.listed with
  | r :: listed => (r.toNat, { c with listed, taken := r.toNat :: c.taken })
  | [] => (c.next.toNat, { c with next := c.next + 1, taken := c.next.toNat :: c.taken })

/-- How far a clock is from showing `target` for certain. -/
def distance (target : Nat) (c : Clock) : Nat :=
  c.listed.length + (target - c.next).toNat

/-- A reading earlier than `target` brings the clock nearer to it. -/
theorem distance_read_lt {target : Nat} {c : Clock} (h : c.read.1 < target) :
    distance target c.read.2 < distance target c := by
  unfold read at h ⊢
  unfold distance
  split
  · simp_all
  · simp_all
    omega

/-- Readings are taken until one is `target` or later; that one is the result. -/
def waitUntil (target : Nat) (c : Clock) : Nat × Clock :=
  if c.read.1 < target then waitUntil target c.read.2 else c.read
termination_by distance target c
decreasing_by exact distance_read_lt ‹_›

/-- A clock that shows one time until it is waited for. -/
def standing (now : Int) : Clock := { listed := [now], next := now + 1 }

end Clock

/-- Settings of a generator. -/
structure GeneratorSettings where
  /-- Milliseconds by which the clock may be behind and is waited for. -/
  driftTolerance : Nat := 500
  /-- The machine, if it is not to be derived from the name of the host. -/
  machine : Option Nat := none
  deriving DecidableEq, Repr, Inhabited

/-- A generator of identifiers. -/
structure Generator where
  machine : Nat
  tolerance : Nat
  /-- The last timestamp used. -/
  last : Nat := 0
  /-- The last sequence number used. -/
  sequence : Nat := 0
  deriving DecidableEq, Repr, Inhabited

namespace Generator

/-- The greatest sequence number. -/
def maxSequence : Nat := 127

/-- What making an identifier leaves behind. -/
structure Issue where
  id : SnowflakeId
  generator : Generator
  clock : Clock
  events : List Event

/-- The time for the next identifier as the clock shows it, whether the clock is
behind beyond the tolerance, and the event that says so. -/
def currentTime (g : Generator) (clock : Clock) : Nat × Bool × Clock × List Event :=
  let (now, clock) := clock.read
  if g.last ≤ now then (now, false, clock, [])
  else
    let drift := g.last - now
    if drift ≤ g.tolerance then
      -- close enough: the clock will be there soon
      let (now, clock) := clock.waitUntil g.last
      (now, false, clock, [])
    else (g.last, true, clock, [.clockWentBack drift g.tolerance])

/-- The timestamp and the sequence number to use at a time, with the clock after a
wait for the next millisecond. -/
def place (g : Generator) (now : Nat) (behind : Bool) (clock : Clock) : Nat × Nat × Clock :=
  if now ≠ g.last then (now, 0, clock)
  else if g.sequence < maxSequence then (now, g.sequence + 1, clock)
  -- waiting for a clock that is far behind could take for ever
  else if behind then (g.last + 1, 0, clock)
  else
    let (now, clock) := clock.waitUntil (g.last + 1)
    (now, 0, clock)

/-- **The next identifier.** -/
def issue (g : Generator) (clock : Clock) : Issue :=
  let (now, behind, clock, events) := g.currentTime clock
  let (timestamp, sequence, clock) := g.place now behind clock
  { id := .ofParts timestamp g.machine sequence
    generator := { g with last := timestamp, sequence }
    clock, events }

/-- The next identifiers, one after the other, with the state they leave behind. -/
def issueMany (g : Generator) (clock : Clock) : (count : Nat) →
    List SnowflakeId × Generator × Clock × List Event
  | 0 => ([], g, clock, [])
  | count + 1 =>
    let i := g.issue clock
    let (ids, g, clock, events) := issueMany i.generator i.clock count
    (i.id :: ids, g, clock, i.events ++ events)

end Generator

end HttpPipeline
